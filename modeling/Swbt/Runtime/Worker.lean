import Swbt.Runtime.Cleanup
import Swbt.Runtime.Reporting
/-!
# One step of the worker

`step_runtime` takes a shutdown or a command, polls and handles transport
events, drives the connection and runs what is due. A phase that ends the step
answers with the step, any other with `none`.
-/

set_option autoImplicit false

open Effects

namespace Swbt

variable {m : ControllerKind} {r : ReportingKind}

theorem second_le : 1000000000 ≤ maxNanos := by decide

/-- One second. -/
def explicitCloseDrainTimeout : Duration := ⟨1000000000, second_le⟩

/-! ## Progress -/

def modifyProgress (f : StepProgress → StepProgress) : Worker m r Unit :=
  update fun s => { s with progress := f s.progress }

def recordCommandProgress (progress : WorkerCommandProgress) : Worker m r Unit := do
  match progress with
  | .pending => return ()
  | .complete result =>
    let previous := (← frame).progress.commandResult
    modifyProgress fun p => { p with commandResult := some result }
    if previous.isSome then panicked .multipleCommandResults

def pushOperationError (error : WorkerOperationError) : Worker m r Unit :=
  modifyProgress fun p => { p with operationErrors := p.operationErrors ++ [error] }

/-! ## Terminal errors -/

/-- The error as reported, with the terminal transport error in it, if any. -/
def classifyPeriodicError : PeriodicError → PeriodicError × Option TransportError
  | .transport error (some laterTerminal) => (.transport error none, some laterTerminal)
  | .transport error none =>
    if error.kind ≠ .sendRejected then (.transport error none, some error) else (.transport error none, none)
  | error => (error, none)

def nonterminalOperationError : WorkerOperationError → WorkerOperationError × Option WorkerCoreError
  | .output (.transport error) =>
    if error.kind ≠ .sendRejected then (.output (.transport error), some (.transport error))
    else (.output (.transport error), none)
  | .periodic error =>
    let (completion, terminal) := classifyPeriodicError error
    (.periodic completion, terminal.map .transport)
  | error => (error, none)

def nonterminalCommandProgress : WorkerCommandProgress → WorkerCommandProgress × Option WorkerCoreError
  | .complete (.error (.direct (.transport error))) =>
    if error.kind ≠ .sendRejected then (.complete (.error (.direct (.transport error))), some (.transport error))
    else (.complete (.error (.direct (.transport error))), none)
  | .complete (.error (.periodic error)) =>
    let (completion, terminal) := classifyPeriodicError error
    (.complete (.error (.periodic completion)), terminal.map .transport)
  | progress => (progress, none)

def recordOperationError (error : WorkerOperationError) : Worker m r (Except WorkerCoreError Unit) := do
  let (completion, terminal) := nonterminalOperationError error
  pushOperationError completion
  match terminal with
  | none => return .ok ()
  | some error => return .error error

/-! ## Ending a session or the worker -/

def completeConnectionCommand (result : CommandResult) : Worker m r Unit := do
  -- Without a connection command in flight there is nobody to tell.
  match (← frame).connectionCommandPending with
  | none => return ()
  | some _ =>
    update fun s => { s with connectionCommandPending := none }
    recordCommandProgress (.complete result)
    modifyProgress fun p => { p with immediate := true }

def completeConnectionFailure (failure : ConnectionCommandFailure) : Worker m r Unit := do
  match (← frame).connectionCommandPending with
  | none => return ()
  | some command => completeConnectionCommand (.error (.connection ⟨command, failure⟩))

def endCurrentSession : Worker m r Unit :=
  update fun s => match s.sessions.current with
    | some sessionId => { s with sessions := s.sessions.endCurrent sessionId }
    | none => s

/-- The end `end_connection` and `abort_connection` share. -/
def endSession (reason : Option UInt8) : Worker m r Unit := do
  endCurrentSession
  update fun s => { s with connected := false }
  update fun s => { s with reporting := s.reporting.stopSession }
  update fun s => { s with lifecycle := s.lifecycle.markConnectionEnded }
  status (.endSession (← frame).lifecycle.state reason)

/-- The failure of the connection work itself, already taken out of the frame. -/
def failConnection (error : ReadinessError) : Worker m r Unit := do
  completeConnectionFailure (.readiness error)
  pushOperationError .readiness

def abortConnection (error : ReadinessError) : Worker m r Unit := do
  failConnection error
  endSession none

def endConnection (reason : Option UInt8) (completion : Option WorkerCommandError) : Worker m r Unit := do
  -- The result of a tap that the end interrupts.
  match completion with
  | none => pure ()
  | some error =>
    recordCommandProgress (.complete (.error error))
    modifyProgress fun p => { p with immediate := true }
  -- The connection work goes with the session, and the command that waits for it fails.
  match (← frame).connection with
  | none => pure ()
  | some _ =>
    update fun s => { s with connection := none }
    failConnection (.disconnected reason)
  endSession reason

def closeSequence : ShutdownRequest → CleanupSequence
  | .explicit mode => .new mode explicitCloseDrainTimeout
  | .dropped => .forDrop

def dropConnection : Worker m r Unit := do
  update fun s => { s with connected := false }
  update fun s => { s with connection := none }
  endCurrentSession

def close (request : ShutdownRequest) (now : Duration) : Worker m r WorkerStep := do
  -- A connection command in flight is shut down, or else a pending tap.
  completeConnectionCommand (.error .shutdown)
  let interrupted ← Reporting.cancelForShutdown
  update fun s => { s with reporting := s.reporting.stopSession }
  let completion ← (closeSequence request).run (← frame).connected (protocolTimestamp now) true
  dropConnection
  status (.close .closed)
  return .closed completion interrupted (← frame).progress

def failureOf : WorkerCoreError → ConnectionCommandFailure
  | .transport source => if source.kind = .invalidKeyStore then .invalidKeyStore else .workerFailed
  | _ => .workerFailed

def failureCategory : WorkerCoreError → WorkerFailureCategory
  | .transport _ => .transport
  | _ => .internal

def fail (error : WorkerCoreError) : Worker m r WorkerStep := do
  -- A connection command in flight fails with the worker.
  completeConnectionFailure (failureOf error)
  update fun s => { s with lifecycle := s.lifecycle.markFailed }
  update fun s => { s with connected := false }
  status (.fail error.statusMessage (failureCategory error))
  return .failed error (← frame).progress

def cleanupAfterFailureWithoutNeutral (now : Duration) : Worker m r (Option CleanupFailure) := do
  update fun s => { s with reporting := s.reporting.stopSession }
  let completion ← (CleanupSequence.new .withoutNeutral explicitCloseDrainTimeout).run (← frame).connected
    (protocolTimestamp now) false
  dropConnection
  return if completion.performed then completion.firstFailure else none

/-- The check for a shutdown between any two parts of a step. -/
def closeIfRequested : Worker m r (Option WorkerStep) := do
  match ← takeShutdown with
  | none => return none
  | some request => return some (← close request (← now))

def failOrClose (error : WorkerCoreError) : Worker m r WorkerStep := do
  match ← closeIfRequested with
  | some exit => return exit
  | none => fail error

/-! ## Commands -/

def beginConnection (now timeout : Duration) : Worker m r (Except WorkerCoreError ConnectionSessionId) := do
  let operationDeadline := deadlineAfter now timeout
  match (← frame).lifecycle.beginConnection with
  | none => return .error .invalidLifecycle
  | some lifecycle =>
    update fun s => { s with lifecycle }
    let sessionId ← Reporting.beginSession
    update fun s => { s with
      connection := some ⟨sessionId, some (Reporting.beginHandshake r sessionId), .new sessionId operationDeadline⟩ }
    update fun s => { s with connected := false }
    let s ← frame
    status (.beginSession sessionId s.lifecycle.state s.input)
    return .ok sessionId

/-- The Pair and Reconnect arms: the transport is started before the lifecycle
is looked at. -/
def connect (kind : ConnectionCommandKind) (timeout : Duration) : Worker m r WorkerCommandProgress := do
  let started ← match kind with
    | .pair => startPairing
    | .reconnect => startReconnect
  match started with
  | .error error => return .complete (.error (.connection ⟨kind, .begin (.transport error)⟩))
  | .ok () =>
    -- A start that was granted is not taken back if the lifecycle refuses the session.
    match ← beginConnection (← now) timeout with
    | .error error => return .complete (.error (.connection ⟨kind, .begin error⟩))
    | .ok _ =>
      update fun s => { s with connectionCommandPending := some kind }
      return .pending

def runCommand (command : RuntimeCommand m r) : Worker m r WorkerCommandProgress := do
  match command with
  | .pair timeout => connect .pair timeout
  | .reconnect timeout => connect .reconnect timeout
  | .input command =>
    let lifecycle := (← frame).lifecycle
    match lifecycle.ensureInputCommand with
    | .error error => return .complete (.error (.lifecycle error))
    | .ok () => Reporting.handleCommand command (lifecycle.state = .ready) (← now)

def commandPhase : Worker m r (Option WorkerStep) := do
  let s ← frame
  -- One command at a time: the next is taken once the last has its result.
  if s.connectionCommandPending.isSome || s.reporting.hasPending then return none
  match ← nextCommand with
  | none => return none
  | some command =>
    modifyProgress fun p => { p with commands := p.commands + 1 }
    let result ← runCommand command
    let (completion, terminal) := nonterminalCommandProgress result
    recordCommandProgress completion
    match ← closeIfRequested with
    | some exit => return some exit
    | none =>
      match terminal with
      | some error => return some (← fail error)
      | none => return none

/-- A command that has completed at once leaves room for the next one. -/
def markImmediate : Worker m r Unit := do
  let s ← frame
  if s.progress.commands = 1 && s.connectionCommandPending.isNone && !s.reporting.hasPending then
    modifyProgress fun p => { p with immediate := true }

/-! ## Driving a connection -/

/-- What a handshake step means for the step in progress; an error is terminal. -/
def noteHandshakeProgress (progress : HandshakeProgress) : Worker m r (Except WorkerCoreError Nat) := do
  match progress with
  | .waitingUntil deadline =>
    modifyProgress fun p => { p with nextDeadline := minimumDeadline p.nextDeadline (some deadline) }
    return .ok 0
  | .bootstrapAttempted result skipped =>
    modifyProgress fun p => { p with
      skippedDeadlines := if p.skippedDeadlines + skipped < p.skippedDeadlines then UInt64.ofNat (2 ^ 64 - 1)
        else p.skippedDeadlines + skipped }
    match result with
    | .ok () => return .ok 1
    | .error error =>
      if error.kind = .sendRejected then
        pushOperationError (.output (.transport error))
        return .ok 1
      else return .error (.transport error)
  | .staleSession | .waitingForTopology | .subcommandObserved => return .ok 0

/-- The handshake's part of `drive_connection`. -/
def driveHandshake (connection : ConnectionWork) (now : Duration) :
    Worker m r (Except WorkerCoreError Nat × ConnectionWork) := do
  match connection.handshake with
  | none => return (.ok 0, connection)
  | some handshake =>
    let (progress, handshake) ← handshake.step connection.sessionId now
    let connection := { connection with handshake := some handshake }
    match progress with
    | .error error => return (.error (.handshake error), connection)
    | .ok progress => return (← noteHandshakeProgress progress, connection)

/-- The readiness part of `drive_connection`, `actions` counting what came before. -/
def driveReadiness (connection : ConnectionWork) (now : Duration) (actions : Nat) :
    Worker m r (Except WorkerCoreError Nat) := do
  let evaluation ← Reporting.evaluateReadiness connection.readiness now connection.handshake
  let connection := { connection with readiness := evaluation.readiness, handshake := evaluation.handshake }
  match evaluation.result with
  | .ok (.pending _) =>
    update fun s => { s with connection := some connection }
    return .ok actions
  | .ok (.ready ready) =>
    -- Once Ready the work is done; it is put back only if the lifecycle refuses.
    match (← frame).lifecycle.markReady with
    | some lifecycle =>
      if ready ≠ connection.sessionId then
        update fun s => { s with connection := some connection }
        return .error .invalidLifecycle
      update fun s => { s with lifecycle }
      status (.setLifecycle lifecycle.state)
      completeConnectionCommand (.ok ())
      return .ok (actions + 1)
    | none =>
      update fun s => { s with connection := some connection }
      return .error .invalidLifecycle
  | .error error =>
    abortConnection error
    return .ok actions

def driveConnection (now : Duration) : Worker m r (Except WorkerCoreError Nat) := do
  match (← frame).connection with
  | none => return .ok 0
  | some connection =>
    -- The work is taken out of the frame while it is driven.
    update fun s => { s with connection := none }
    match connection.readiness.ensureActive now (← frame).sessions with
    | .error error =>
      abortConnection error
      return .ok 0
    | .ok () =>
      match ← driveHandshake connection now with
      | (.error error, connection) =>
        update fun s => { s with connection := some connection }
        return .error error
      | (.ok actions, connection) => driveReadiness connection now actions

/-- `drive_connection` with what the step does after it. -/
def drive : Worker m r (Option WorkerStep) := do
  match ← driveConnection (← now) with
  | .error error => return some (← failOrClose error)
  | .ok actions =>
    modifyProgress fun p => { p with dueActions := p.dueActions + actions }
    closeIfRequested

/-! ## Events -/

def recordOutput (completedAt : Duration) (completion : Except OutputHandlingError OutputHandling) :
    Worker m r (Except WorkerCoreError Unit) := do
  -- Only the holdoff after an accepted reply can fail here.
  let recorded ← match ← Reporting.recordOutput completedAt completion with
    | .ok () => pure (.ok ())
    | .error error => recordOperationError error
  match recorded, completion with
  | .error error, _ => return .error error
  | .ok (), .ok _ => return .ok ()
  | .ok (), .error error => recordOperationError (.output error)

/-- The outcome of an output report, completed now. -/
def completeOutput (completion : Except OutputHandlingError OutputHandling) :
    Worker m r (Except WorkerCoreError Bool) := do
  match ← recordOutput (← now) completion with
  | .error error => return .error error
  | .ok () => return .ok false

def updateHandshake (f : ConnectionSessionId → Handshake → Handshake) : Worker m r Unit :=
  update fun s => { s with connection := s.connection.map fun connection =>
    { connection with handshake := connection.handshake.map (f connection.sessionId) } }

/-- What `handle_event` does with what the reporting mode made of an event. -/
def applyReported (event : ReportingEvent) : Worker m r (Except WorkerCoreError Bool) := do
  match event with
  | .passthrough .connected =>
    update fun s => { s with connected := true }
    status (.setConnected true)
    updateHandshake fun sessionId handshake => handshake.observeLink sessionId
    return .ok true
  | .passthrough (.hidChannelOpened channel) =>
    updateHandshake fun sessionId handshake => handshake.observeChannel sessionId channel
    return .ok true
  | .passthrough (.hidOutput channel payload) =>
    -- The reply is made of the committed input.
    let completion ← handleOutput channel payload (← InputStateStore.snapshot)
    completeOutput completion
  | .passthrough (.disconnected reason) =>
    endConnection reason none
    return .ok false
  | .disconnected reason completion =>
    endConnection reason completion
    return .ok false
  | .output completion => completeOutput completion

/-- `handle_event` for an event of the current session. -/
def applyEvent (event : TransportEvent) : Worker m r (Except WorkerCoreError Bool) := do
  applyReported (← Reporting.handleEvent event)

/-- Whether the event changed the topology. -/
def handleEvent (event : SessionEvent) : Worker m r (Except WorkerCoreError Bool) := do
  match (← frame).sessions.takeCurrent event with
  | none =>
    processed none
    return .ok false
  | some taken =>
    processed (some event)
    applyEvent taken

def handleEvents : List (Option SessionEvent) → Worker m r (Option WorkerStep)
  | [] => pure none
  | event :: rest => do
    modifyProgress fun p => { p with hciEvents := p.hciEvents + 1 }
    let outcome ← match event with
      | some event => handleEvent event
      | none => do
        processed none
        pure (.ok false)
    -- After an error the rest of the batch is not come to.
    match outcome with
    | .error error => return some (← failOrClose error)
    | .ok topologyChanged =>
      match ← closeIfRequested with
      | some exit => return some exit
      | none =>
        match ← (if topologyChanged then drive else pure none) with
        | some exit => return some exit
        | none => handleEvents rest

/-- The poll loop, with the batches the budget still allows. -/
def pollBatches : Nat → Worker m r (Option WorkerStep)
  | 0 => pure none
  | remaining + 1 => do
    match ← poll .ZERO with
    | .error error => return some (← failOrClose (.transport error))
    | .ok events =>
      if events.isEmpty then return none
      -- The whole batch is tagged with the session that is current when the poll returns.
      let sessions := (← frame).sessions
      match ← handleEvents (events.map sessions.tagCurrent) with
      | some exit => return some exit
      | none =>
        -- The budget is spent, and more events may be waiting.
        if remaining = 0 then modifyProgress fun p => { p with immediate := true }
        pollBatches remaining

/-! ## Due actions -/

def recordDueCompletion (completion : Option WorkerCommandProgress) : Worker m r (Option WorkerCoreError) := do
  match completion with
  | none => return none
  | some progress =>
    let (completion, terminal) := nonterminalCommandProgress progress
    recordCommandProgress completion
    return terminal

/-- Records the errors and keeps the first terminal one. -/
def recordDueErrors (terminal : Option WorkerCoreError) :
    List WorkerOperationError → Worker m r (Option WorkerCoreError)
  | [] => pure terminal
  | error :: rest => do
    let (completion, later) := nonterminalOperationError error
    pushOperationError completion
    recordDueErrors (terminal <|> later) rest

def duePhase : Worker m r (Option WorkerStep) := do
  let s ← frame
  if s.lifecycle.state = .ready ||
      (s.lifecycle.state = .connecting && s.reporting.automaticDueBeforeReady) then
    let due ← Reporting.runDue (← now)
    modifyProgress fun p => { p with
      dueActions := p.dueActions + due.actions
      immediate := p.immediate || due.immediate }
    let terminal ← recordDueCompletion due.completion
    let terminal ← recordDueErrors terminal due.errors
    match ← closeIfRequested with
    | some exit => return some exit
    | none =>
      match terminal with
      | some error => return some (← fail error)
      | none => return none
  else return none

/-! ## The step -/

def WorkerCore.nextDeadline (core : WorkerCore m r) : Option Duration :=
  let deadline := core.reporting.nextDeadline
  match core.connection with
  | none => deadline
  | some connection =>
    let deadline := minimumDeadline deadline (some connection.readiness.operationDeadline)
    minimumDeadline deadline (connection.handshake.bind Handshake.nextDeadline)

def finishStep : Worker m r WorkerStep := do
  let s ← frame
  modifyProgress fun p => { p with nextDeadline := minimumDeadline p.nextDeadline s.nextDeadline }
  return .continue (← frame).progress

/-- The phases after the command, in the order of the code. -/
def stepAfterCommand : Worker m r WorkerStep := do
  markImmediate
  match ← pollBatches (← frame).budget.pollBatches with
  | some exit => return exit
  | none =>
    match ← drive with
    | some exit => return exit
    | none =>
      match ← duePhase with
      | some exit => return exit
      | none => finishStep

def stepRuntime : Worker m r WorkerStep := do
  modifyProgress fun _ => .new
  match ← closeIfRequested with
  | some exit => return exit
  | none =>
    match ← commandPhase with
    | some exit => return exit
    | none => stepAfterCommand

end Swbt
