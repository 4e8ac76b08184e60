import Swbt.Runtime.StepEffect
/-!
# Steps as paths of moves

A `Move` is one thing a step does, and takes a sound frame to a sound frame.
Invariants of the worker are proved by cases on `Move` and carried over paths,
steps and runs.
-/

set_option autoImplicit false

open Effects

namespace Swbt

variable {m : ControllerKind} {r : ReportingKind}

namespace Frame

/-- The result of a command at its end, nothing while it is pending. -/
def settle (s : Frame m r) : WorkerCommandProgress → Frame m r
  | .pending => s
  | .complete result => s.answer result

def countCommand (s : Frame m r) : Frame m r :=
  { s with progress := { s.progress with commands := s.progress.commands + 1 } }

def noteAll (s : Frame m r) (errors : List WorkerOperationError) : Frame m r :=
  { s with progress := { s.progress with operationErrors := s.progress.operationErrors ++ errors } }

def countDue (s : Frame m r) (due : ReportingDue) : Frame m r :=
  { s with progress := { s.progress with
    dueActions := s.progress.dueActions + due.actions
    immediate := s.progress.immediate || due.immediate } }

def settleDue (s : Frame m r) : Option WorkerCommandProgress → Frame m r
  | none => s
  | some progress => s.settle (nonterminalCommandProgress progress).1

/-- The frame after a due action is counted and recorded. -/
def recordDue (s : Frame m r) (due : ReportingDue) : Frame m r :=
  ((s.countDue due).settleDue due.completion).noteAll (due.errors.map fun error => (nonterminalOperationError error).1)

/-- The frame at the start of a step. -/
def fresh (s : Frame m r) : Frame m r := { s with progress := .new }

end Frame

/-- Due actions run when the worker is ready, or connecting with its schedule started. -/
def WorkerCore.DueAllowed (core : WorkerCore m r) : Prop :=
  core.lifecycle.state = .ready ∨
    (core.lifecycle.state = .connecting ∧ core.reporting.automaticDueBeforeReady = true)

/-- The terminal error of a result. -/
def terminalError {α : Type} : Except WorkerCoreError α → Option WorkerCoreError
  | .ok _ => none
  | .error error => some error

/-- The first terminal error of a due action: its completion's, or one of its errors'. -/
def ReportingDue.terminal (due : ReportingDue) : Option WorkerCoreError :=
  due.errors.foldl (fun terminal error => terminal <|> (nonterminalOperationError error).2)
    (due.completion.bind fun progress => (nonterminalCommandProgress progress).2)

/-- One thing a step does, with the terminal error it comes to, if any. -/
inductive Move (h : Log m r) (s : Frame m r) : Option WorkerCoreError → Log m r → Frame m r → Prop
  | unrequested : Move h s none (.call s Op.takeShutdown none :: h) s
  | noCommand (hcommand : s.connectionCommandPending = none) (htap : s.reporting.hasPending = false) :
      Move h s none (.call s Op.nextCommand none :: h) s
  | polled {events : List TransportEvent} : Move h s none (.call s (Op.poll .ZERO) (.ok events) :: h) s
  | pollFailed {error : TransportError} :
      Move h s (some (.transport error)) (.call s (Op.poll .ZERO) (.error error) :: h) s
  | untagged : Move h s none (.emit s (.processed none) :: h) s
  | progress {progress : StepProgress} (hresult : progress.commandResult = s.progress.commandResult) :
      Move h s none h { s with progress }
  | command {command : RuntimeCommand m r} {h' : Log m r} {s' : Frame m r} {progress : WorkerCommandProgress}
      (hcommand : s.connectionCommandPending = none) (htap : s.reporting.hasPending = false)
      (hresult : s.progress.commandResult = none)
      (heffect : CommandEffect (.call s Op.nextCommand (some command) :: h) s.countCommand command h' s' progress) :
      Move h s (nonterminalCommandProgress progress).2 h' (s'.settle (nonterminalCommandProgress progress).1)
  | event {event : SessionEvent} {h' : Log m r} {s' : Frame m r} {result : Except WorkerCoreError Bool}
      (heffect : EventEffect event h s h' s' result) : Move h s (terminalError result) h' s'
  | drive {t : Duration} {h' : Log m r} {s' : Frame m r} {result : Except WorkerCoreError Nat}
      (heffect : DriveEffect t (.call s Op.now t :: h) s h' s' result) : Move h s (terminalError result) h' s'
  | due {t : Duration} {h' : Log m r} {s' : Frame m r} {due : ReportingDue} (hallowed : s.DueAllowed)
      (heffect : DueEffect t (.call s Op.now t :: h) s h' s' due) : Move h s due.terminal h' (s'.recordDue due)

/-- Moves without a terminal error, one after the other, through sound frames. -/
inductive Path (h : Log m r) (s : Frame m r) : Log m r → Frame m r → Prop
  | refl : Path h s h s
  | move {h₁ h₂ : Log m r} {s₁ s₂ : Frame m r} (hpath : Path h s h₁ s₁) (hsound : s₁.Sound)
      (hmove : Move h₁ s₁ none h₂ s₂) : Path h s h₂ s₂

theorem Path.single {h h' : Log m r} {s s' : Frame m r} (hsound : s.Sound) (hmove : Move h s none h' s') :
    Path h s h' s' := .move .refl hsound hmove

theorem Path.trans {h h₁ h₂ : Log m r} {s s₁ s₂ : Frame m r} (hleft : Path h s h₁ s₁) (hright : Path h₁ s₁ h₂ s₂) :
    Path h s h₂ s₂ := by
  induction hright with
  | refl => exact hleft
  | move _ hsound hmove ih => exact .move ih hsound hmove

/-- A property that every move from a sound frame keeps holds at the end of a path. -/
theorem Path.inv {P : Log m r → Frame m r → Prop} {h h' : Log m r} {s s' : Frame m r} (hpath : Path h s h' s')
    (hstart : P h s)
    (hmove : ∀ {h₁ h₂ : Log m r} {s₁ s₂ : Frame m r}, s₁.Sound → Move h₁ s₁ none h₂ s₂ → P h₁ s₁ → P h₂ s₂) :
    P h' s' := by
  induction hpath with
  | refl => exact hstart
  | move _ hsound hstep ih => exact hmove hsound hstep ih

/-! ## Moves keep frames sound -/

theorem Frame.Sound.congr {s s' : Frame m r} (hs : s.Sound) (hcore : s'.toWorkerCore = s.toWorkerCore)
    (hresult : s'.progress.commandResult = s.progress.commandResult) : s'.Sound := by
  constructor
  · rw [hcore]
    exact hs.coherent
  · rw [hcore, hresult]
    exact hs.unanswered

/-- Every schedule of `reporting'` runs, or is one `reporting` has. -/
def Reporting.KeepsSchedule (reporting reporting' : Reporting m r) : Prop :=
  ∀ policy, reporting'.policy = some policy → policy.scheduler.isSome = true ∨
    ∃ before, reporting.policy = some before ∧ before.scheduler = policy.scheduler

theorem IsReady.scheduler_of_keeps {s s' : Frame m r} (hready : IsReady s.toWorkerCore)
    (hkeeps : s.reporting.KeepsSchedule s'.reporting) :
    ∀ policy, s'.reporting.policy = some policy → policy.scheduler.isSome = true := by
  intro policy hpolicy
  rcases hkeeps policy hpolicy with hsome | ⟨before, hbefore, heq⟩
  · exact hsome
  · rw [← heq]
    exact hready.scheduler before hbefore

/-- A frame whose control fields agree with those of a sound frame in a session. -/
theorem Frame.Sound.of_live {s s' : Frame m r} (hs : s.Sound) (hlive : s.sessions.current ≠ none)
    (hlifecycle : s'.lifecycle = s.lifecycle) (hsessions : s'.sessions = s.sessions)
    (hconnection : s'.connection = s.connection)
    (hcommand : s'.connectionCommandPending = s.connectionCommandPending)
    (htap : s'.reporting.hasPending = s.reporting.hasPending)
    (hinput : s'.input = s.input) (hresult : s'.progress.commandResult = s.progress.commandResult)
    (hkeeps : s.reporting.KeepsSchedule s'.reporting) : s'.Sound := by
  constructor
  · cases hs.coherent with
    | «open» hopen => exact absurd hopen.current hlive
    | connecting hwork hc =>
      exact .connecting (hconnection.trans hwork) ⟨hlifecycle.trans hc.lifecycle,
        (congrArg ConnectionSessions.current hsessions).trans hc.current, hc.work, by rw [hcommand]; exact hc.command,
        htap.trans hc.noTap, hinput.trans hc.neutral⟩
    | ready hready =>
      exact .ready ⟨hlifecycle.trans hready.lifecycle, by rw [hsessions]; exact hready.current,
        hconnection.trans hready.connection, hcommand.trans hready.command, hready.scheduler_of_keeps hkeeps⟩
  · rw [hcommand, htap, hresult]
    exact hs.unanswered

theorem Sent.sound {bytes : List UInt8} {candidate : SenderCommit} {h h' : Log m r} {s s' : Frame m r}
    {result : TransportResult Unit} (hsent : Sent bytes candidate h s h' s' result) (hs : s.Sound) : s'.Sound := by
  cases hsent with
  | refused error => exact hs
  | accepted =>
    refine ⟨?_, hs.unanswered⟩
    cases hs.coherent with
    | «open» hopen => exact .open ⟨hopen.1, hopen.2, hopen.3, hopen.4, hopen.5, hopen.6⟩
    | connecting hwork hc => exact .connecting hwork ⟨hc.1, hc.2, hc.3, hc.4, hc.5, hc.6⟩
    | ready hready => exact .ready ⟨hready.1, hready.2, hready.3, hready.4, hready.5⟩

/-- An input is only committed where no connection is pending. -/
theorem Frame.commit_sound {s : Frame m r} (hs : s.Sound) (hcommand : s.connectionCommandPending = none)
    (candidate : InputState m) : (s.commit candidate).Sound := by
  constructor
  · cases hs.coherent with
    | «open» hopen => exact .open ⟨hopen.1, hopen.2, hopen.3, hopen.4, hopen.5, hopen.6⟩
    | connecting hwork hc => exact absurd hc.command (by simp [hcommand])
    | ready hready => exact .ready ⟨hready.1, hready.2, hready.3, hready.4, hready.5⟩
  · exact hs.unanswered

theorem DirectSent.sound {candidate : InputState m} {nowNs : UInt64} {h h' : Log m r} {s s' : Frame m r}
    {result : TransportResult Unit} (hsent : DirectSent candidate nowNs h s h' s' result) (hs : s.Sound)
    (hcommand : s.connectionCommandPending = none) : s'.Sound := by
  cases hsent with
  | accepted hsent =>
    exact Frame.commit_sound (Sent.sound hsent hs) ((Sent.sameControl hsent).command.trans hcommand) candidate
  | refused hsent => exact hsent.sound hs

theorem PeriodicSent.sound {candidate : InputState m} {nowNs : UInt64} {h h' : Log m r} {s s' : Frame m r}
    {result : TransportResult Unit} (hsent : PeriodicSent candidate nowNs h s h' s' result) (hs : s.Sound)
    (hcommand : s.connectionCommandPending = none) : s'.Sound :=
  Sent.sound hsent (Frame.commit_sound hs hcommand candidate)

/-- The control fields that sends and commits leave alone. -/
structure SameCommand (s s' : Frame m r) : Prop where
  lifecycle : s'.lifecycle = s.lifecycle
  command : s'.connectionCommandPending = s.connectionCommandPending
  reporting : s'.reporting = s.reporting
  result : s'.progress.commandResult = s.progress.commandResult

theorem DirectSent.sameCommand {candidate : InputState m} {nowNs : UInt64} {h h' : Log m r} {s s' : Frame m r}
    {result : TransportResult Unit} (hsent : DirectSent candidate nowNs h s h' s' result) : SameCommand s s' := by
  cases hsent with
  | accepted hsent =>
    have hsame := Sent.sameControl hsent
    have hreporting := Sent.reporting hsent
    exact ⟨hsame.lifecycle, hsame.command, hreporting, hsame.result⟩
  | refused hsent =>
    have hsame := Sent.sameControl hsent
    have hreporting := Sent.reporting hsent
    exact ⟨hsame.lifecycle, hsame.command, hreporting, hsame.result⟩

theorem PeriodicSent.sameCommand {candidate : InputState m} {nowNs : UInt64} {h h' : Log m r} {s s' : Frame m r}
    {result : TransportResult Unit} (hsent : PeriodicSent candidate nowNs h s h' s' result) : SameCommand s s' := by
  have hsame := Sent.sameControl hsent
  have hreporting := Sent.reporting hsent
  exact ⟨hsame.lifecycle, hsame.command, hreporting, hsame.result⟩

/-- A worker without pending commands stays sound when it answers one. -/
theorem Frame.answer_sound {s : Frame m r} (hs : s.Sound) (hcommand : s.connectionCommandPending = none)
    (htap : s.reporting.hasPending = false) (result : CommandResult) : (s.answer result).Sound := by
  constructor
  · exact hs.coherent
  · intro hpending
    rcases hpending with hpending | hpending
    · rw [show (s.answer result).connectionCommandPending = none from hcommand] at hpending
      cases hpending
    · rw [show (s.answer result).reporting = s.reporting from rfl, htap] at hpending
      cases hpending

/-- A ready worker without a result stays sound when it takes a tap. -/
theorem Frame.setTap_sound {s : Frame m r} (hs : s.Sound) (hready : s.lifecycle.state = .ready)
    (hresult : s.progress.commandResult = none) (tap : Option (Tap m)) : (s.setTap tap).Sound := by
  have h := hs.coherent.of_ready hready
  constructor
  · exact .ready ⟨h.lifecycle, h.current, h.connection, h.command, by
      intro policy hpolicy
      rw [show (s.setTap tap).reporting.policy = s.reporting.policy from Reporting.policy_withTap _ _] at hpolicy
      exact h.scheduler policy hpolicy⟩
  · exact fun _ => hresult

theorem SameCommand.idle {s s' : Frame m r} (hsame : SameCommand s s') (hcommand : s.connectionCommandPending = none)
    (htap : s.reporting.hasPending = false) :
    s'.connectionCommandPending = none ∧ s'.reporting.hasPending = false := by
  rw [hsame.command, hsame.reporting]
  exact ⟨hcommand, htap⟩

theorem InputEffect.sound {command : ReportingCommand m r} {t : Duration} {h h' : Log m r} {s s' : Frame m r}
    {progress : WorkerCommandProgress}
    (he : InputEffect command t h s h' s' progress) (hs : s.Sound) (hcommand : s.connectionCommandPending = none)
    (htap : s.reporting.hasPending = false) (hresult : s.progress.commandResult = none) :
    s'.Sound ∧ ((∃ result, progress = .complete result) →
      s'.connectionCommandPending = none ∧ s'.reporting.hasPending = false) ∧
      (progress = .pending → s'.connectionCommandPending = none ∧ s'.reporting.hasPending = true) := by
  cases he with
  | rejected herror => exact ⟨hs, fun _ => ⟨hcommand, htap⟩, by simp⟩
  | committed hr candidate => exact ⟨Frame.commit_sound hs hcommand candidate, fun _ => ⟨hcommand, htap⟩, by simp⟩
  | sent hr hready hsent => exact ⟨hsent.sound hs hcommand, fun _ => hsent.sameCommand.idle hcommand htap, by simp⟩
  | unsent hr hready hsent => exact ⟨hsent.sound hs hcommand, fun _ => hsent.sameCommand.idle hcommand htap, by simp⟩
  | pressedDirect hr hready hsent =>
    have hsame := hsent.sameCommand
    refine ⟨Frame.setTap_sound (hsent.sound hs hcommand) (by rw [hsame.lifecycle]; exact hready) (hsame.result.trans hresult) _,
      by simp, fun _ => ⟨hsame.command.trans hcommand, ?_⟩⟩
    exact Reporting.hasPending_withTap _ _
  | pressedPeriodic hr hready hsent hpress =>
    have hsame := hsent.sameCommand
    refine ⟨Frame.setTap_sound (hsent.sound hs hcommand) (by rw [hsame.lifecycle]; exact hready) (hsame.result.trans hresult) _,
      by simp, fun _ => ⟨hsame.command.trans hcommand, ?_⟩⟩
    exact Reporting.hasPending_withTap _ _
  | unpressed hr hready hsent hkind =>
    exact ⟨hsent.sound hs hcommand, fun _ => hsent.sameCommand.idle hcommand htap, by simp⟩

theorem Reporting.hasPending_resetPolicy (reporting : Reporting m r) :
    reporting.resetPolicy.hasPending = reporting.hasPending := by
  cases reporting with
  | periodic runtime => rfl
  | direct runtime => rfl

theorem beginHandshake_sessionId (r : ReportingKind) (id : ConnectionSessionId) :
    (Reporting.beginHandshake r id).sessionId = id := by
  cases r with
  | periodic => rfl
  | direct => rfl

theorem begin_connecting {s : Frame m r} (htap : s.reporting.hasPending = false) (kind : ConnectionCommandKind)
    (deadline : Duration) : IsConnecting (s.beginWork deadline) (s.begin kind deadline).toWorkerCore := by
  refine ⟨rfl, rfl, ⟨rfl, rfl, ?_, by simp [Frame.beginWork, ReadinessGate.new]⟩, rfl, ?_, rfl⟩
  · intro handshake hsome
    cases hsome
    exact beginHandshake_sessionId r _
  · exact (Reporting.hasPending_resetPolicy s.reporting).trans htap

theorem CommandEffect.sound {h h' : Log m r} {s s' : Frame m r} {command : RuntimeCommand m r}
    {progress : WorkerCommandProgress} (he : CommandEffect h s command h' s' progress) (hs : s.Sound)
    (hcommand : s.connectionCommandPending = none) (htap : s.reporting.hasPending = false)
    (hresult : s.progress.commandResult = none) :
    s'.Sound ∧ ((∃ result, progress = .complete result) →
      s'.connectionCommandPending = none ∧ s'.reporting.hasPending = false) := by
  cases he with
  | unstarted => exact ⟨hs, fun _ => ⟨hcommand, htap⟩⟩
  | refused hopen => exact ⟨hs, fun _ => ⟨hcommand, htap⟩⟩
  | begun hopen => exact ⟨⟨.connecting rfl (begin_connecting htap _ _), fun _ => hresult⟩, by simp⟩
  | ended hended => exact ⟨hs, fun _ => ⟨hcommand, htap⟩⟩
  | input heffect =>
    have hall := heffect.sound hs hcommand htap hresult
    exact ⟨hall.1, hall.2.1⟩

theorem nonterminalCommandProgress_complete (result : CommandResult) :
    ∃ result', (nonterminalCommandProgress (.complete result)).1 = .complete result' := by
  unfold nonterminalCommandProgress
  split
  · split
    · exact ⟨_, rfl⟩
    · exact ⟨_, rfl⟩
  · exact ⟨_, rfl⟩
  · exact ⟨result, rfl⟩

/-- Recording the outcome of a command keeps a frame sound. -/
theorem settle_sound {s : Frame m r} {progress : WorkerCommandProgress} (hs : s.Sound)
    (hidle : (∃ result, progress = .complete result) →
      s.connectionCommandPending = none ∧ s.reporting.hasPending = false) :
    (s.settle (nonterminalCommandProgress progress).1).Sound := by
  cases progress with
  | pending => exact hs
  | complete result =>
    obtain ⟨result', hresult'⟩ := nonterminalCommandProgress_complete result
    obtain ⟨hcommand, htap⟩ := hidle ⟨result, rfl⟩
    rw [hresult']
    exact Frame.answer_sound hs hcommand htap result'

/-- A worker whose session has ended is open. -/
theorem endSession_open {s : Frame m r} (hlifecycle : s.lifecycle = ⟨.connecting⟩ ∨ s.lifecycle = ⟨.ready⟩)
    (hwork : s.connection = none) (hcommand : s.connectionCommandPending = none) :
    IsOpen s.endSession.toWorkerCore := by
  refine ⟨?_, rfl, hwork, hcommand, Reporting.stopSession_stopSession _, rfl⟩
  change s.lifecycle.markConnectionEnded = _
  rcases hlifecycle with h | h
  · rw [h]
    rfl
  · rw [h]
    rfl

theorem IsOpen.sound {s : Frame m r} (h : IsOpen s.toWorkerCore) : s.Sound := by
  refine ⟨.open h, ?_⟩
  rintro (hcommand | htap)
  · rw [h.command] at hcommand
    cases hcommand
  · rw [Reporting.hasPending_of_idle h.idle] at htap
    cases htap

theorem Frame.completeFailure_keeps (s : Frame m r) (failure : ConnectionCommandFailure) :
    (s.completeFailure failure).connection = s.connection ∧
      (s.completeFailure failure).connectionCommandPending = none ∧
      (s.completeFailure failure).reporting = s.reporting := by
  unfold Frame.completeFailure Frame.complete
  cases hcommand : s.connectionCommandPending with
  | none => exact ⟨rfl, hcommand, rfl⟩
  | some command => exact ⟨rfl, rfl, rfl⟩

theorem abort_open {s : Frame m r} (hlifecycle : s.lifecycle = ⟨.connecting⟩) (hwork : s.connection = none)
    (error : ReadinessError) : IsOpen (s.abort error).toWorkerCore := by
  obtain ⟨hconnection, hcommand, -⟩ := s.completeFailure_keeps (.readiness error)
  refine endSession_open (.inl ?_) (hconnection.trans hwork) hcommand
  exact (s.lifecycle_completeFailure _).trans hlifecycle

/-- A ready evaluation leaves the automatic schedule running. -/
theorem Reporting.started_running {reporting reporting' : Reporting m r} {session : ProtocolSession} {t : Duration}
    (h : reporting.started session t = .ok reporting') (hready : session.protocolReady = true)
    (hheld : reporting.heldOff t = none) :
    ∀ policy, reporting'.policy = some policy → policy.scheduler.isSome = true := by
  unfold started at h
  cases reporting with
  | direct runtime =>
    cases h
    intro policy hpolicy
    cases hpolicy
  | periodic runtime =>
    simp only [heldOff, policy, Option.bind_some] at hheld
    simp only [ProtocolSession.reportMode_of_protocolReady hready, if_true] at h
    unfold PeriodicPolicy.startWhenUnheld at h
    rw [hheld] at h
    intro policy' hpolicy
    cases hscheduler : runtime.policy.scheduler with
    | some scheduler =>
      simp only [hscheduler] at h
      cases h
      cases hpolicy
      rw [hscheduler]
      rfl
    | none =>
      simp only [hscheduler] at h
      split at h
      · cases h
      · rename_i start policy'' hstart
        split at hstart
        · cases hstart
        · cases hstart
          cases h
          cases hpolicy
          rfl

/-- The connection is still being made once its work, driven for its own session, is put back. -/
theorem Frame.Sound.putBack {s s₁ : Frame m r} {work work' : ConnectionWork} (hs : s.Sound)
    (hwork : s.connection = some work) (hsame : SameControl s.takeConnection s₁)
    (hof : work'.OfSession work.sessionId) (hid : work'.sessionId = work.sessionId) : (s₁.putConnection work').Sound := by
  have hconnecting := hs.coherent.of_connection hwork
  refine ⟨.connecting rfl ⟨hsame.lifecycle.trans hconnecting.lifecycle, ?_, ?_, ?_, ?_,
    hsame.input.trans hconnecting.neutral⟩, ?_⟩
  · rw [hid]
    exact (congrArg ConnectionSessions.current hsame.sessions).trans hconnecting.current
  · rw [hid]
    exact hof
  · rw [show (Frame.putConnection _ _).connectionCommandPending = _ from hsame.command]
    exact hconnecting.command
  · rw [Reporting.hasPending_eq, show (Frame.putConnection _ _).reporting.tap = _ from hsame.tap,
      ← Reporting.hasPending_eq]
    exact hconnecting.noTap
  · intro _
    exact hsame.result.trans (hs.unanswered (.inl hconnecting.command))

theorem DriveEffect.sound {t : Duration} {h h' : Log m r} {s s' : Frame m r} {result : Except WorkerCoreError Nat}
    (he : DriveEffect t h s h' s' result) (hs : s.Sound) : s'.Sound := by
  cases he with
  | idle hnone => exact hs
  | aborted hwork hinactive =>
    exact (abort_open (s := s.takeConnection) (hs.coherent.of_connection hwork).lifecycle rfl _).sound
  | failed hwork hactive hhandshake =>
    obtain ⟨hsame, -, hof, hid⟩ := hhandshake.sameControl (hs.coherent.of_connection hwork).work
    exact hs.putBack hwork hsame hof hid
  | pending hwork hactive hhandshake hevaluated hresult =>
    obtain ⟨hsame₁, -, hof₁, hid⟩ := hhandshake.sameControl (hs.coherent.of_connection hwork).work
    obtain ⟨hsame₂, -, -, hof₂⟩ := hevaluated.sameControl hof₁
    exact hs.putBack hwork (hsame₁.trans hsame₂) hof₂ hid
  | ready hwork hactive hhandshake hevaluated hresult =>
    rename_i s₁ s₂
    have hconnecting := hs.coherent.of_connection hwork
    obtain ⟨hsame₁, hreporting, hwork₁, hid₁⟩ := hhandshake.sameControl hconnecting.work
    obtain ⟨hsame₂, -, -, hwork₂⟩ := hevaluated.sameControl hwork₁
    have hsame := hsame₁.trans hsame₂
    obtain ⟨kind, hkind⟩ := Option.isSome_iff_exists.1 hconnecting.command
    have hcommand : s₂.markReady.connectionCommandPending = some kind := hsame.command.trans hkind
    -- A connection is only made for a command, so there is one to tell.
    have hcomplete : s₂.markReady.complete (.ok ()) =
        ({ s₂.markReady with connectionCommandPending := none }.answer (.ok ())).setImmediate := by
      unfold Frame.complete
      rw [hcommand]
    have htap : s₂.reporting.hasPending = false := by
      rw [Reporting.hasPending_eq, hsame.tap, ← Reporting.hasPending_eq]
      exact hconnecting.noTap
    rw [hcomplete]
    refine ⟨.ready ⟨rfl, ?_, hsame.connection, rfl, ?_⟩, ?_⟩
    · have hcurrent : s₂.sessions.current = some _ :=
        (congrArg ConnectionSessions.current hsame.sessions).trans hconnecting.current
      exact Option.isSome_iff_exists.2 ⟨_, hcurrent⟩
    · intro policy hpolicy
      cases hevaluated with
      | ready hcollect hgate hstart hready hheld => exact Reporting.started_running hstart hready hheld policy hpolicy
      | _ => cases hresult
    · rintro (hpending | hpending)
      · cases hpending
      · change s₂.reporting.hasPending = true at hpending
        rw [htap] at hpending
        cases hpending
  | evaluationFailed hwork hactive hhandshake hevaluated hresult =>
    have hconnecting := hs.coherent.of_connection hwork
    obtain ⟨hsame₁, -, hwork₁, -⟩ := hhandshake.sameControl hconnecting.work
    obtain ⟨hsame₂, -, -, -⟩ := hevaluated.sameControl hwork₁
    have hsame := hsame₁.trans hsame₂
    exact (abort_open (hsame.lifecycle.trans hconnecting.lifecycle) hsame.connection _).sound

theorem mapHandshake_sound {s : Frame m r} (hs : s.Sound) {f : ConnectionSessionId → Handshake → Handshake}
    (hf : ∀ id handshake, (f id handshake).sessionId = handshake.sessionId) : (s.mapHandshake f).Sound := by
  refine ⟨?_, hs.unanswered⟩
  cases hs.coherent with
  | «open» hopen =>
    refine .open ⟨hopen.lifecycle, hopen.current, ?_, hopen.command, hopen.idle, hopen.disconnected⟩
    change s.connection.map _ = none
    rw [hopen.connection]
    rfl
  | connecting hwork hc =>
    rename_i work
    have hmapped : (s.mapHandshake f).connection =
        some { work with handshake := work.handshake.map (f work.sessionId) } := by
      change s.connection.map _ = _
      rw [hwork]
      rfl
    refine .connecting hmapped ⟨hc.lifecycle, hc.current, ⟨rfl, hc.work.gate, ?_, hc.work.collected⟩, hc.command,
      hc.noTap, hc.neutral⟩
    intro handshake hsome
    obtain ⟨before, hbefore, rfl⟩ := Option.map_eq_some_iff.1 hsome
    rw [hf, hc.work.handshake before hbefore]
  | ready hready =>
    refine .ready ⟨hready.lifecycle, hready.current, ?_, hready.command, hready.scheduler⟩
    change s.connection.map _ = none
    rw [hready.connection]
    rfl

theorem connect_sound {s : Frame m r} (hs : s.Sound) (hcurrent : s.sessions.current ≠ none) : s.connect.Sound := by
  refine ⟨?_, hs.unanswered⟩
  cases hs.coherent with
  | «open» hopen => exact absurd hopen.current hcurrent
  | connecting hwork hc => exact .connecting hwork ⟨hc.1, hc.2, hc.3, hc.4, hc.5, hc.6⟩
  | ready hready => exact .ready ⟨hready.1, hready.2, hready.3, hready.4, hready.5⟩

theorem disconnect_open {s : Frame m r} (hs : s.Sound) {id : ConnectionSessionId}
    (hcurrent : s.sessions.current = some id) (reason : Option UInt8) : IsOpen (s.disconnect reason).toWorkerCore := by
  have hcut : (s.cutTap reason).lifecycle = s.lifecycle ∧ (s.cutTap reason).connection = s.connection ∧
      (s.cutTap reason).connectionCommandPending = s.connectionCommandPending := by
    unfold Frame.cutTap
    split
    · exact ⟨rfl, rfl, rfl⟩
    · exact ⟨rfl, rfl, rfl⟩
  obtain ⟨hlifecycle, hconnection, hcommand⟩ := hcut
  unfold Frame.disconnect Frame.cutConnection
  cases hs.coherent with
  | «open» hopen =>
    rw [hopen.current] at hcurrent
    cases hcurrent
  | connecting hwork hc =>
    rw [hconnection, hwork]
    obtain ⟨hkept, hanswered, -⟩ := (s.cutTap reason).takeConnection.completeFailure_keeps
      (.readiness (.disconnected reason))
    refine endSession_open (.inl ?_) hkept hanswered
    exact ((s.cutTap reason).takeConnection.lifecycle_completeFailure _).trans (hlifecycle.trans hc.lifecycle)
  | ready hready =>
    rw [hconnection, hready.connection]
    exact endSession_open (.inr (hlifecycle.trans hready.lifecycle)) (hconnection.trans hready.connection)
      (hcommand.trans hready.command)

theorem Reporting.keepsSchedule_recorded (reporting : Reporting m r) (t : Duration)
    (completion : Except OutputHandlingError OutputHandling) :
    reporting.KeepsSchedule (reporting.recorded t completion) := by
  intro policy hpolicy
  have hsame := reporting.scheduler_recorded t completion
  rw [hpolicy] at hsame
  obtain ⟨before, hbefore, heq⟩ := Option.map_eq_some_iff.1 hsame.symm
  exact .inr ⟨before, hbefore, heq⟩

/-- A tap held back during an output report is put back as it was. -/
theorem Answered.reporting_back {channel : HidChannel} {raw : List UInt8} {current : InputState m}
    {held : Option (Tap m)} {h h' : Log m r} {s s' : Frame m r} {completion : Except OutputHandlingError OutputHandling}
    (ha : Answered channel raw current h (s.setTap held) h' s' completion) :
    (s'.setTap s.reporting.tap).reporting = s.reporting := by
  have hreporting : s'.reporting = (s.setTap held).reporting := ha.keeps.2.2.2.2.2.2.1
  have hback : (s'.setTap s.reporting.tap).reporting = ((s.setTap held).setTap s.reporting.tap).reporting :=
    congrArg (Reporting.withTap s.reporting.tap) hreporting
  rw [hback, Frame.setTap_setTap, Frame.setTap_tap]

theorem EventEffect.sound {event : SessionEvent} {h h' : Log m r} {s s' : Frame m r}
    {result : Except WorkerCoreError Bool} (he : EventEffect event h s h' s' result) (hs : s.Sound) : s'.Sound := by
  cases he with
  | dropped hstale => exact hs
  | connected hcurrent hevent =>
    refine mapHandshake_sound (connect_sound hs (by rw [hcurrent]; simp)) ?_
    intro id handshake
    unfold Handshake.observeLink
    split
    · rfl
    · rfl
  | opened hcurrent hevent =>
    refine mapHandshake_sound hs ?_
    intro id handshake
    unfold Handshake.observeChannel
    split
    · rfl
    · split
      · rfl
      · rfl
  | answered hcurrent hevent hheld hanswered =>
    obtain ⟨hlifecycle, hsessions, hconnection, hcommand, -, hinput, -, hprogress⟩ := hanswered.keeps
    have hreporting := hanswered.reporting_back
    refine hs.of_live (by rw [hcurrent]; simp) hlifecycle hsessions hconnection hcommand ?_ hinput ?_ ?_
    · change Reporting.hasPending (Reporting.recorded _ _ _) = _
      rw [hreporting, Reporting.hasPending_eq, Reporting.tap_recorded, ← Reporting.hasPending_eq]
    · have hresult := congrArg StepProgress.commandResult hprogress
      exact hresult
    · change s.reporting.KeepsSchedule (Reporting.recorded _ _ _)
      rw [hreporting]
      exact s.reporting.keepsSchedule_recorded _ _
  | disconnected hcurrent hevent => exact (disconnect_open hs hcurrent _).sound

theorem Released.sound {tap : Tap m} {t : Duration} {h h' : Log m r} {s s' : Frame m r} {result : CommandResult}
    (hreleased : Released tap t h s h' s' result) (hs : s.Sound) (hcommand : s.connectionCommandPending = none) :
    s'.Sound ∧ SameCommand s s' := by
  cases hreleased with
  | periodic hr hsent => exact ⟨hsent.sound hs hcommand, hsent.sameCommand⟩
  | direct hr hsent => exact ⟨hsent.sound hs hcommand, hsent.sameCommand⟩

theorem Frame.setTap_none_sound {s : Frame m r} (hs : s.Sound) (hready : s.lifecycle.state = .ready) :
    (s.setTap none).Sound := by
  have h := hs.coherent.of_ready hready
  constructor
  · exact .ready ⟨h.lifecycle, h.current, h.connection, h.command, by
      intro policy hpolicy
      rw [show (s.setTap none).reporting.policy = s.reporting.policy from Reporting.policy_withTap _ _] at hpolicy
      exact h.scheduler policy hpolicy⟩
  · rintro (hcommand | htap)
    · rw [show (s.setTap none).connectionCommandPending = none from h.command] at hcommand
      cases hcommand
    · rw [show (s.setTap none).reporting.hasPending = false from Reporting.hasPending_withTap _ _] at htap
      cases htap

theorem Frame.noteAll_sound {s : Frame m r} (hs : s.Sound) (errors : List WorkerOperationError) :
    (s.noteAll errors).Sound := ⟨hs.coherent, hs.unanswered⟩

theorem Frame.countDue_sound {s : Frame m r} (hs : s.Sound) (due : ReportingDue) : (s.countDue due).Sound :=
  ⟨hs.coherent, hs.unanswered⟩

/-- A due action without a completion is recorded without harm. -/
theorem Frame.recordDue_sound {s : Frame m r} (hs : s.Sound) {due : ReportingDue} (hnone : due.completion = none) :
    (s.recordDue due).Sound := by
  unfold Frame.recordDue
  rw [hnone]
  exact Frame.noteAll_sound (Frame.countDue_sound hs due) _

theorem setPolicy_sound {s : Frame m r} (hs : s.Sound) {policy : PeriodicPolicy} {scheduler : ReportScheduler}
    (hlive : s.sessions.current ≠ none) : (s.setPolicy { policy with scheduler := some scheduler }).Sound := by
  refine hs.of_live hlive rfl rfl rfl rfl ?_ rfl rfl ?_
  · exact Reporting.hasPending_withPolicy _ _
  · intro policy' hpolicy
    change (Reporting.withPolicy _ s.reporting).policy = some policy' at hpolicy
    cases hreporting : s.reporting with
    | periodic runtime =>
      rw [hreporting] at hpolicy
      cases hpolicy
      exact .inl rfl
    | direct runtime =>
      rw [hreporting] at hpolicy
      cases hpolicy

theorem WorkerCore.DueAllowed.live {core : WorkerCore m r} (hallowed : core.DueAllowed) (hc : Coherent core) :
    core.sessions.current ≠ none := by
  rcases hallowed with hready | ⟨hconnecting, -⟩
  · rw [← Option.isSome_iff_ne_none]
    exact (hc.of_ready hready).current
  · obtain ⟨work, -, hwork⟩ := hc.of_connecting hconnecting
    rw [hwork.current]
    simp

theorem DueEffect.sound {t : Duration} {h h' : Log m r} {s s' : Frame m r} {due : ReportingDue}
    (he : DueEffect t h s h' s' due) (hs : s.Sound) (hlive : s.sessions.current ≠ none) : (s'.recordDue due).Sound := by
  cases he with
  | quiet htap hpolicy => exact Frame.recordDue_sound hs rfl
  | failed hpolicy herror => exact Frame.recordDue_sound hs rfl
  | backpressured htap hpolicy hticks => exact Frame.recordDue_sound (setPolicy_sound hs hlive) rfl
  | automatic hpolicy hticks hsent herrors =>
    exact Frame.recordDue_sound (Sent.sound hsent (setPolicy_sound hs hlive)) rfl
  | released htap hdue hreleased =>
    have hpending : s.reporting.hasPending = true := by
      rw [Reporting.hasPending_eq, htap]
      rfl
    have hready := hs.coherent.of_tap hpending
    have hstate : s.lifecycle.state = .ready := by rw [hready.lifecycle]; rfl
    obtain ⟨hs', hsame⟩ := hreleased.sound (Frame.setTap_none_sound hs hstate) hready.command
    have hidle := hsame.idle (show (s.setTap none).connectionCommandPending = none from hready.command)
      (Reporting.hasPending_withTap _ _)
    exact Frame.noteAll_sound (settle_sound (Frame.countDue_sound hs' _) fun _ => hidle) _

theorem Move.sound {terminal : Option WorkerCoreError} {h h' : Log m r} {s s' : Frame m r}
    (hmove : Move h s terminal h' s') (hs : s.Sound) : s'.Sound := by
  cases hmove with
  | unrequested => exact hs
  | noCommand hcommand htap => exact hs
  | polled => exact hs
  | pollFailed => exact hs
  | untagged => exact hs
  | progress hresult => exact hs.congr rfl hresult
  | command hcommand htap hresult heffect =>
    obtain ⟨hs', hidle⟩ := heffect.sound (s := Frame.countCommand s) ⟨hs.coherent, hs.unanswered⟩ hcommand htap hresult
    exact settle_sound hs' hidle
  | event heffect => exact heffect.sound hs
  | drive heffect => exact heffect.sound hs
  | due hallowed heffect => exact heffect.sound hs (hallowed.live hs.coherent)

end Swbt
