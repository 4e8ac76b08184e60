import Swbt.Runtime.EventEffect
/-!
# What a step can do

`Move` lists everything a step does between two sound frames: one call or
output of no consequence, a command, an event, a drive, a due action. A step
is a `Path` of moves that ends by going on, by closing or by failing.
-/

set_option autoImplicit false

open Effects

namespace Swbt

variable {m : ControllerKind} {r : ReportingKind}

/-! ## Commands -/

namespace Reporting

/-- `reset_for_new_session` of a periodic policy. -/
def resetPolicy : Reporting m r → Reporting m r
  | .periodic runtime => .periodic { runtime with policy := runtime.policy.resetForNewSession }
  | .direct runtime => .direct runtime

end Reporting

namespace Frame

/-- The first half of a session's begin: lifecycle, schedule and sender. -/
def resetSender (s : Frame m r) : Frame m r :=
  { s with
    lifecycle := ⟨.connecting⟩
    reporting := s.reporting.resetPolicy
    sender := { s.sender with committed := .default } }

def resetInput (s : Frame m r) : Frame m r := { s.resetSender with observed := .default, input := .neutral }

def beginWork (s : Frame m r) (deadline : Duration) : ConnectionWork :=
  ⟨s.sessions.prepareNext, some (Reporting.beginHandshake r s.sessions.prepareNext),
    .new s.sessions.prepareNext deadline⟩

def beginSession (s : Frame m r) (deadline : Duration) : Frame m r :=
  { s.resetInput with
    sessions := .issue s.sessions.prepareNext
    connection := some (s.beginWork deadline)
    connected := false }

/-- A session begun for a command of `kind`. -/
def begin (s : Frame m r) (kind : ConnectionCommandKind) (deadline : Duration) : Frame m r :=
  { s.beginSession deadline with connectionCommandPending := some kind }

/-- What the begin of a session adds to the log. -/
def beginLog (s : Frame m r) (deadline : Duration) (h : Log m r) : Log m r :=
  .emit (s.beginSession deadline) (.status (.beginSession s.sessions.prepareNext .connecting .neutral)) ::
    .emit s.resetInput (.status (.setSnapshot .neutral)) ::
    .emit s.resetSender (.status (ReportSender.statusCall { s.sender with committed := .default })) :: h

end Frame

/-- The call that starts a connection. -/
def startEvent (kind : ConnectionCommandKind) (s : Frame m r) (result : TransportResult Unit) : LogEvent m r :=
  match kind with
  | .pair => .call s Op.startPairing result
  | .reconnect => .call s Op.startReconnect result

def connectCommand (kind : ConnectionCommandKind) (timeout : Duration) : RuntimeCommand m r :=
  match kind with
  | .pair => .pair timeout
  | .reconnect => .reconnect timeout

inductive CommandEffect (h : Log m r) (s : Frame m r) :
    RuntimeCommand m r → Log m r → Frame m r → WorkerCommandProgress → Prop
  | unstarted {kind : ConnectionCommandKind} {timeout : Duration} {error : TransportError} :
      CommandEffect h s (connectCommand kind timeout) (startEvent kind s (.error error) :: h) s
        (.complete (.error (.connection ⟨kind, .begin (.transport error)⟩)))
  | refused {kind : ConnectionCommandKind} {timeout t : Duration} (hopen : s.lifecycle.current ≠ .open) :
      CommandEffect h s (connectCommand kind timeout) (.call s Op.now t :: startEvent kind s (.ok ()) :: h) s
        (.complete (.error (.connection ⟨kind, .begin .invalidLifecycle⟩)))
  | begun {kind : ConnectionCommandKind} {timeout t : Duration} (hopen : s.lifecycle.current = .open) :
      CommandEffect h s (connectCommand kind timeout)
        (s.beginLog (deadlineAfter t timeout) (.call s Op.now t :: startEvent kind s (.ok ()) :: h))
        (s.begin kind (deadlineAfter t timeout)) .pending
  | ended {command : ReportingCommand m r} {error : LifecycleCommandError}
      (hended : s.lifecycle.ensureInputCommand = .error error) :
      CommandEffect h s (.input command) h s (.complete (.error (.lifecycle error)))
  | input {command : ReportingCommand m r} {t : Duration} {h' : Log m r} {s' : Frame m r}
      {progress : WorkerCommandProgress} (heffect : InputEffect command t (.call s Op.now t :: h) s h' s' progress) :
      CommandEffect h s (.input command) h' s' progress

theorem beginSession_spec (h : Log m r) (s : Frame m r)
    (Q : Log m r → Frame m r → ConnectionSessionId → Prop)
    (hQ : Q (.emit s.resetInput (.status (.setSnapshot .neutral)) ::
        .emit s.resetSender (.status (ReportSender.statusCall { s.sender with committed := .default })) :: h)
      { s.resetInput with sessions := .issue s.sessions.prepareNext } s.sessions.prepareNext) :
    Act.wp Reporting.beginSession h { s with lifecycle := ⟨.connecting⟩ } Q := by
  obtain ⟨⟨lifecycle, input, reporting, sender, protocol, observed, sessions, connection, pending, connected, budget⟩,
    progress⟩ := s
  cases reporting with
  | periodic runtime => exact hQ
  | direct runtime => exact hQ

theorem beginConnection_spec (t timeout : Duration) (h : Log m r) (s : Frame m r)
    (Q : Log m r → Frame m r → Except WorkerCoreError ConnectionSessionId → Prop)
    (hrefused : s.lifecycle.current ≠ .open → Q h s (.error .invalidLifecycle))
    (hbegun : s.lifecycle.current = .open →
      Q (s.beginLog (deadlineAfter t timeout) h) (s.beginSession (deadlineAfter t timeout))
        (.ok s.sessions.prepareNext)) :
    Act.wp (beginConnection t timeout) h s Q := by
  unfold beginConnection
  rw [Act.wp_bind, wp_frame]
  by_cases hopen : s.lifecycle.current = .open
  · have hbegin : s.lifecycle.beginConnection = some ⟨.connecting⟩ := by
      unfold LifecycleStateMachine.beginConnection
      rw [if_neg (not_not.2 hopen)]
    rw [hbegin]
    simp only [Act.wp_bind, wp_update]
    exact beginSession_spec h s _ (hbegun hopen)
  · have hbegin : s.lifecycle.beginConnection = none := by
      unfold LifecycleStateMachine.beginConnection
      rw [if_pos hopen]
    rw [hbegin]
    exact hrefused hopen

/-- What a connection command does once its start is answered. -/
theorem started_spec (kind : ConnectionCommandKind) (timeout : Duration) (h : Log m r) (s : Frame m r)
    (result : TransportResult Unit) : Act.wp (match result with
      | .error error => pure (.complete (.error (.connection ⟨kind, .begin (.transport error)⟩)))
      | .ok () => do
        match ← beginConnection (← now) timeout with
        | .error error => return .complete (.error (.connection ⟨kind, .begin error⟩))
        | .ok _ =>
          update fun s => { s with connectionCommandPending := some kind }
          return .pending) (startEvent kind s result :: h) s (CommandEffect h s (connectCommand kind timeout)) := by
  cases result with
  | error error => exact .unstarted
  | ok started =>
    simp only [Act.wp_bind, wp_now]
    intro t
    refine beginConnection_spec t timeout _ s _ ?_ ?_
    · intro hopen
      exact .refused hopen
    · intro hopen
      exact .begun hopen

theorem connect_spec (kind : ConnectionCommandKind) (timeout : Duration) (h : Log m r) (s : Frame m r) :
    Act.wp (connect kind timeout) h s (CommandEffect h s (connectCommand kind timeout)) := by
  unfold connect
  cases kind with
  | pair =>
    rw [Act.wp_bind, wp_startPairing]
    exact started_spec .pair timeout h s
  | reconnect =>
    rw [Act.wp_bind, wp_startReconnect]
    exact started_spec .reconnect timeout h s

theorem runCommand_spec (command : RuntimeCommand m r) (h : Log m r) (s : Frame m r) :
    Act.wp (runCommand command) h s (CommandEffect h s command) := by
  unfold runCommand
  cases command with
  | pair timeout => exact connect_spec .pair timeout h s
  | reconnect timeout => exact connect_spec .reconnect timeout h s
  | input command =>
    rw [Act.wp_bind, wp_frame]
    dsimp only
    cases hended : s.lifecycle.ensureInputCommand with
    | error error => exact .ended hended
    | ok alive =>
      simp only [Act.wp_bind, wp_now]
      intro t
      refine Act.wp_mono (handleCommand_spec command t _ s) ?_
      intro h' s' progress heffect
      exact .input heffect

/-! ## Closing and failing -/

/-- The neutral report of a cleanup, where there is one. -/
inductive NeutralSent (wanted : Bool) (nowNs : UInt64) (h : Log m r) (s : Frame m r) :
    Log m r → Frame m r → Option CleanupFailure → Prop
  | sent {h' : Log m r} {s' : Frame m r} {result : TransportResult Unit} (hwanted : wanted = true)
      (hsent : InputSent .neutral nowNs h s h' s' result) :
      NeutralSent wanted nowNs h s h' s' (CleanupSequence.recordFirstFailure none .neutral result)
  | skipped (hwanted : wanted = false) : NeutralSent wanted nowNs h s h s none

/-- The drain of a cleanup, where there is one. -/
inductive Drained (sequence : CleanupSequence) (s : Frame m r) (failure : Option CleanupFailure) (h : Log m r) :
    Log m r → Option CleanupFailure → Prop
  | drained {result : TransportResult Unit} (hwanted : sequence.drainInterrupt = true) :
      Drained sequence s failure h (.call s (Op.drainInterrupt sequence.drainTimeout) result :: h)
        (CleanupSequence.recordFirstFailure failure .drainInterrupt result)
  | skipped (hwanted : sequence.drainInterrupt = false) : Drained sequence s failure h h failure

/-- A status call, if the cleanup publishes. -/
def published (publish : Bool) (s : Frame m r) (call : StatusCall m) (h : Log m r) : Log m r :=
  if publish then .emit s (.status call) :: h else h

inductive Cleaned (sequence : CleanupSequence) (connected : Bool) (nowNs : UInt64) (publish : Bool) (h : Log m r)
    (s : Frame m r) : Log m r → Frame m r → CloseCompletion → Prop
  | closing (hclosing : s.lifecycle.current = .closing) :
      Cleaned sequence connected nowNs publish h s h s ⟨false, none⟩
  | performed {h₁ h₂ : Log m r} {s' : Frame m r} {failure₁ failure₂ : Option CleanupFailure}
      {disconnected closed : TransportResult Unit} (hlive : s.lifecycle.current ≠ .closing)
      (hneutral : NeutralSent (decide (sequence.mode = .withNeutral) && connected) nowNs
        (published publish { s with lifecycle := ⟨.closing⟩ } (.setLifecycle .closing) h)
        { s with lifecycle := ⟨.closing⟩ } h₁ s' failure₁)
      (hdrained : Drained sequence s' failure₁ h₁ h₂ failure₂) :
      Cleaned sequence connected nowNs publish h s
        (published publish s' (.close .closed) (.call s' Op.close closed :: .call s' Op.disconnect disconnected :: h₂))
        s'
        ⟨true, CleanupSequence.recordFirstFailure (CleanupSequence.recordFirstFailure failure₂ .disconnect disconnected)
          .transportClose closed⟩

theorem neutralSent_spec (sequence : CleanupSequence) (connected : Bool) (nowNs : UInt64) (h : Log m r)
    (s : Frame m r) :
    Act.wp (sequence.sendNeutral connected nowNs) h s
      (NeutralSent (decide (sequence.mode = .withNeutral) && connected) nowNs h s) := by
  unfold CleanupSequence.sendNeutral
  by_cases hwanted : sequence.mode = .withNeutral ∧ connected = true
  · rw [if_pos hwanted, Act.wp_map]
    refine Act.wp_mono (sendInput_spec .neutral nowNs h s) ?_
    intro h' s' result hsent
    exact .sent (by simp [hwanted]) hsent
  · rw [if_neg hwanted]
    exact .skipped (by simpa using hwanted)

theorem drained_spec (sequence : CleanupSequence) (failure : Option CleanupFailure) (h : Log m r) (s : Frame m r) :
    Act.wp (sequence.drain failure) h s fun h' s' failure' => s' = s ∧ Drained sequence s failure h h' failure' := by
  unfold CleanupSequence.drain
  by_cases hwanted : sequence.drainInterrupt = true
  · rw [if_pos hwanted, Act.wp_map, wp_drainInterrupt]
    intro result
    exact ⟨rfl, .drained hwanted⟩
  · rw [if_neg hwanted]
    exact ⟨rfl, .skipped (by simpa using hwanted)⟩

theorem cleanup_spec (sequence : CleanupSequence) (connected : Bool) (nowNs : UInt64) (publish : Bool) (h : Log m r)
    (s : Frame m r) :
    Act.wp (sequence.run connected nowNs publish) h s (Cleaned sequence connected nowNs publish h s) := by
  unfold CleanupSequence.run
  rw [Act.wp_bind, wp_frame]
  by_cases hclosing : s.lifecycle.current = .closing
  · have hrequest : s.lifecycle.requestClose = (.none, s.lifecycle) := by
      unfold LifecycleStateMachine.requestClose
      rw [hclosing]
    simp only [hrequest, Act.wp_bind, wp_update]
    exact .closing hclosing
  · have hrequest : s.lifecycle.requestClose = (.beginCleanup, ⟨.closing⟩) := by
      unfold LifecycleStateMachine.requestClose
      split
      · rfl
      · rfl
      · rfl
      · rfl
      · contradiction
    simp only [hrequest, Act.wp_bind, wp_update, ne_eq, not_true_eq_false, if_false]
    have hneutral := fun h => neutralSent_spec sequence connected nowNs h { s with lifecycle := ⟨.closing⟩ }
    have hdrained := fun failure h s' => drained_spec (m := m) (r := r) sequence failure h s'
    cases publish with
    | true =>
      simp only [if_true, Act.wp_bind, wp_status]
      refine Act.wp_mono (hneutral _) ?_
      intro h₁ s' failure₁ hneutral
      refine Act.wp_mono (hdrained failure₁ h₁ s') ?_
      rintro h₂ s'' failure₂ ⟨rfl, hdrained⟩
      intro disconnected closed
      exact .performed hclosing hneutral hdrained
    | false =>
      simp only [Bool.false_eq_true, if_false, Act.wp_bind]
      refine Act.wp_mono (hneutral _) ?_
      intro h₁ s' failure₁ hneutral
      refine Act.wp_mono (hdrained failure₁ h₁ s') ?_
      rintro h₂ s'' failure₂ ⟨rfl, hdrained⟩
      intro disconnected closed
      exact .performed hclosing hneutral hdrained

namespace Frame

/-- The frame a cleanup starts from. -/
def shut (s : Frame m r) : Frame m r :=
  let s := (s.complete (.error .shutdown)).setTap none
  { s with reporting := s.reporting.stopSession }

end Frame

inductive CloseEffect (request : ShutdownRequest) (t : Duration) (h : Log m r) (s : Frame m r) :
    Log m r → Frame m r → WorkerStep → Prop
  | closed {h' : Log m r} {s' : Frame m r} {completion : CloseCompletion}
      (hcleaned : Cleaned (closeSequence request) s.connected (protocolTimestamp t) true h s.shut h' s' completion) :
      CloseEffect request t h s (.emit s'.dropConnection (.status (.close .closed)) :: h') s'.dropConnection
        (.closed completion (s.reporting.tap.map fun _ => cancelError r) s'.dropConnection.progress)

theorem Frame.complete_keeps (s : Frame m r) (result : CommandResult) :
    (s.complete result).reporting = s.reporting ∧ (s.complete result).connected = s.connected ∧
      (s.complete result).lifecycle = s.lifecycle ∧ (s.complete result).sessions = s.sessions ∧
      (s.complete result).sender = s.sender ∧ (s.complete result).input = s.input ∧
      (s.complete result).observed = s.observed ∧ (s.complete result).connection = s.connection := by
  unfold Frame.complete
  split
  · exact ⟨rfl, rfl, rfl, rfl, rfl, rfl, rfl, rfl⟩
  · exact ⟨rfl, rfl, rfl, rfl, rfl, rfl, rfl, rfl⟩

theorem close_spec (request : ShutdownRequest) (t : Duration) (h : Log m r) (s : Frame m r)
    (hnone : s.connectionCommandPending.isSome = true → s.progress.commandResult = none) :
    Act.wp (close request t) h s (CloseEffect request t h s) := by
  unfold close
  rw [Act.wp_bind]
  refine wp_complete _ _ hnone ?_
  rw [Act.wp_bind]
  refine cancelForShutdown_spec _ _ _ ?_
  simp only [Act.wp_bind, wp_update, wp_frame]
  obtain ⟨hreporting, hconnected, -⟩ := s.complete_keeps (.error .shutdown)
  refine Act.wp_mono (cleanup_spec (closeSequence request) _ _ true h _) ?_
  intro h' s' completion hcleaned
  refine wp_dropConnection _ ?_
  simp only [wp_status]
  rw [hreporting]
  refine .closed ?_
  rw [← hconnected]
  exact hcleaned

inductive FailEffect (error : WorkerCoreError) (h : Log m r) (s : Frame m r) : Log m r → Frame m r → WorkerStep → Prop
  | failed : FailEffect error h s
      (.emit (s.fail error) (.status (.fail error.statusMessage (failureCategory error))) :: h) (s.fail error)
      (.failed error (s.fail error).progress)

theorem fail_spec (error : WorkerCoreError) (h : Log m r) (s : Frame m r)
    (hnone : s.connectionCommandPending.isSome = true → s.progress.commandResult = none) :
    Act.wp (fail error) h s (FailEffect error h s) := by
  unfold fail
  rw [Act.wp_bind]
  refine wp_completeFailure _ _ hnone ?_
  simp only [Act.wp_bind, wp_update, wp_status, wp_frame]
  exact .failed

end Swbt
