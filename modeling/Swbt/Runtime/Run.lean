import Swbt.Runtime.Phases
import Swbt.Runtime.WorkerThread
/-!
# Runs of a worker

A `Run` starts with a new worker and makes steps that all go on; a `Trace` is
a run that may have ended since. Whatever the environment answers, a run of
these answers exists, so a theorem about every run holds for every client,
every transport and every clock.
-/

set_option autoImplicit false

open Effects

namespace Swbt

variable {m : ControllerKind} {r : ReportingKind}

/-! ## New workers -/

namespace WorkerCore

def fromOpenTransport (protocol : SwitchHidProtocol) (reporting : Reporting m r) (budget : WorkerBudget) :
    WorkerCore m r where
  lifecycle := .new
  input := .neutral
  reporting := reporting
  sender := .new
  protocol := protocol
  observed := .default
  sessions := .new
  connection := none
  connectionCommandPending := none
  connected := false
  budget := budget

def newPeriodic (protocol : SwitchHidProtocol) (period : Duration) (budget : WorkerBudget) :
    Except SchedulerError (WorkerCore m .periodic) :=
  match PeriodicPolicy.new period with
  | .error error => .error error
  | .ok policy => .ok (fromOpenTransport protocol (.periodic ⟨policy, none⟩) budget)

def newDirect (protocol : SwitchHidProtocol) (budget : WorkerBudget) : WorkerCore m .direct :=
  fromOpenTransport protocol (.direct ⟨none⟩) budget

/-- A worker as one of the two constructors makes it. -/
inductive IsNew : {r : ReportingKind} → WorkerCore m r → Prop
  | periodic {protocol : SwitchHidProtocol} {period : Duration} {budget : WorkerBudget} {core : WorkerCore m .periodic}
      (hnew : newPeriodic protocol period budget = .ok core) : IsNew core
  | direct (protocol : SwitchHidProtocol) (budget : WorkerBudget) : IsNew (newDirect protocol budget)

/-- The worker before its first step. -/
def start (core : WorkerCore m r) : Frame m r := ⟨core, .new⟩

def openLog (core : WorkerCore m r) : Log m r := [.emit core.start (.status (.setLifecycle .open))]

theorem IsNew.isOpen {core : WorkerCore m r} (hnew : core.IsNew) : IsOpen core := by
  cases hnew with
  | direct protocol budget => exact ⟨rfl, rfl, rfl, rfl, rfl, rfl⟩
  | periodic hnew =>
    unfold newPeriodic at hnew
    split at hnew
    · cases hnew
    · rename_i policy hpolicy
      cases hnew
      unfold PeriodicPolicy.new at hpolicy
      split at hpolicy
      · cases hpolicy
      · cases hpolicy
        exact ⟨rfl, rfl, rfl, rfl, rfl, rfl⟩

end WorkerCore

/-! ## Runs -/

inductive Run : Log m r → Frame m r → Prop
  | opened {core : WorkerCore m r} (hnew : core.IsNew) : Run core.openLog core.start
  | step {h h' : Log m r} {s s' : Frame m r} {progress : StepProgress} (hrun : Run h s)
      (hexec : Prog.Exec (stepRuntime s) h h' s' (.continue progress)) : Run h' s'

/-- The run goes on, or has ended in a step, or was cleaned up after a failure
of the worker or of the thread around it. -/
inductive Trace : Log m r → Frame m r → Prop
  | running {h : Log m r} {s : Frame m r} (hrun : Run h s) : Trace h s
  | stepped {h h' : Log m r} {s s' : Frame m r} {step : WorkerStep} (hrun : Run h s)
      (hexec : Prog.Exec (stepRuntime s) h h' s' step) : Trace h' s'
  | abandoned {h h' : Log m r} {s s' : Frame m r} {cause : WorkerFailureCause} {failure : Option CleanupFailure}
      (hrun : Run h s) (hexec : Prog.Exec (completeWorkerFailure cause s) h h' s' failure) : Trace h' s'
  | failed {h h₁ h' : Log m r} {s s₁ s' : Frame m r} {error : WorkerCoreError} {progress : StepProgress}
      {cause : WorkerFailureCause} {failure : Option CleanupFailure} (hrun : Run h s)
      (hstep : Prog.Exec (stepRuntime s) h h₁ s₁ (.failed error progress))
      (hexec : Prog.Exec (completeWorkerFailure cause s₁) h₁ h' s' failure) : Trace h' s'

/-- The worker is coherent between any two steps. -/
theorem Run.coherent {h : Log m r} {s : Frame m r} (hrun : Run h s) : Coherent s.toWorkerCore := by
  induction hrun with
  | opened hnew => exact .open hnew.isOpen
  | step hrun hexec ih =>
    cases hexec.post (stepRuntime_spec _ _ ih) with
    | continued hpath hsound => exact hsound.coherent
    | closed hpath hsound₁ hlast hsound hclose => cases hclose
    | failed hpath hsound₁ hmove hsound hfail => cases hfail

/-! ## Scripted runs -/

/-- An environment that takes every send, with a clock that stands at `t`; the
`n`-th call of a step may take `command n` or poll `events n`. -/
def scripted (t : Duration) (command : Nat → Option (RuntimeCommand m r)) (events : Nat → List TransportEvent) :
    Nat → (op : Op) → Op.Ans m r op
  | _, .now => t
  | _, .takeShutdown => none
  | n, .nextCommand => command n
  | n, .poll _ => .ok (events n)
  | _, .interruptSendCapacityAvailable => true
  | _, .startPairing | _, .startReconnect | _, .sendInterrupt _ | _, .drainInterrupt _ | _, .disconnect | _, .close =>
    .ok ()

/-- A transport that takes no send. -/
def refusingSends : Nat → (op : Op) → Op.Ans m r op
  | _, .sendInterrupt _ => .error ⟨.sendRejected, none⟩
  | n, op => scripted .ZERO (fun _ => none) (fun _ => []) n op

def WorkerStep.goesOn : WorkerStep → Bool
  | «continue» _ => true
  | closed .. | failed .. => false

/-- One step of a worker in a given environment. -/
def play (env : Nat → (op : Op) → Op.Ans m r op) (point : Log m r × Frame m r) : Log m r × Frame m r :=
  let ended := (stepRuntime point.2).run env 0 point.1
  (ended.1, ended.2.1)

theorem Run.play {point : Log m r × Frame m r} (hrun : Run point.1 point.2) (env : Nat → (op : Op) → Op.Ans m r op)
    (hgoes : ((stepRuntime point.2).run env 0 point.1).2.2.goesOn = true) :
    Run (Swbt.play env point).1 (Swbt.play env point).2 := by
  have hexec := Prog.exec_run env (stepRuntime point.2) 0 point.1
  cases hstep : ((stepRuntime point.2).run env 0 point.1).2.2 with
  | «continue» progress =>
    rw [hstep] at hexec
    exact .step hrun hexec
  | closed completion interrupted progress => simp [hstep, WorkerStep.goesOn] at hgoes
  | failed error progress => simp [hstep, WorkerStep.goesOn] at hgoes

/-- One step of a worker in a given environment, with the step. -/
def playStep (env : Nat → (op : Op) → Op.Ans m r op) (point : Log m r × Frame m r) :
    Log m r × Frame m r × WorkerStep := (stepRuntime point.2).run env 0 point.1

theorem playStep_exec (env : Nat → (op : Op) → Op.Ans m r op) (point : Log m r × Frame m r) :
    Prog.Exec (stepRuntime point.2) point.1 (playStep env point).1 (playStep env point).2.1
      (playStep env point).2.2 := by
  unfold playStep
  exact Prog.exec_run (E := WorkerInterface m r) env _ 0 _

def samplePeriod : Duration := ⟨8000000, by decide⟩

def sampleTimeout : Duration := ⟨30000000000, by decide⟩

theorem sampleColor_le : (0x323232 : UInt32) ≤ 0xFFFFFF := by decide

def sampleColor : Rgb24 := ⟨0x323232, sampleColor_le⟩

def sampleProtocol : SwitchHidProtocol :=
  ⟨⟨sampleColor, sampleColor, sampleColor, sampleColor⟩, [0x02, 0x00, 0x00, 0x00, 0x00, 0x01], rfl⟩

def sampleBudget : WorkerBudget := ⟨4, by decide⟩

def sampleDirect : WorkerCore .pro .direct := .newDirect sampleProtocol sampleBudget

/-! ## Coherence -/

/-- Whatever a worker has been through, its fields agree between any two steps. -/
theorem worker_coherence {h : Log m r} {s : Frame m r} (hrun : Run h s) :
    (s.lifecycle.state = .open → s.sessions.current = none ∧ s.connection = none ∧
      s.connectionCommandPending = none ∧ s.reporting.hasPending = false ∧ s.connected = false ∧
      ∀ policy, s.reporting.policy = some policy → policy.scheduler = none ∧ policy.replyHoldoffUntil = none) ∧
    (s.lifecycle.state = .connecting ↔ s.connection.isSome = true) ∧
    (∀ work, s.connection = some work →
      s.sessions.current = some work.sessionId ∧ s.connectionCommandPending.isSome = true) ∧
    (s.lifecycle.state = .ready →
      s.sessions.current.isSome = true ∧ s.connection = none ∧ s.connectionCommandPending = none) ∧
    (s.reporting.hasPending = true → s.lifecycle.state = .ready) ∧
    (s.connected = true → s.sessions.current.isSome = true) ∧
    s.lifecycle.state ≠ .closing ∧ s.lifecycle.state ≠ .failed := by
  have hc := hrun.coherent
  refine ⟨?_, ⟨?_, ?_⟩, ?_, ?_, ?_, hc.current_of_connected, ?_⟩
  · intro hstate
    have hopen := hc.of_open (LifecycleStateMachine.current_of_state_open hstate)
    exact ⟨hopen.current, hopen.connection, hopen.command, Reporting.hasPending_of_idle hopen.idle,
      hopen.disconnected, Reporting.policy_of_idle hopen.idle⟩
  · intro hstate
    obtain ⟨work, hwork, -⟩ := hc.of_connecting hstate
    rw [hwork]
    rfl
  · intro hsome
    obtain ⟨work, hwork⟩ := Option.isSome_iff_exists.1 hsome
    rw [(hc.of_connection hwork).lifecycle]
    rfl
  · intro work hwork
    have hconnecting := hc.of_connection hwork
    exact ⟨hconnecting.current, hconnecting.command⟩
  · intro hstate
    have hready := hc.of_ready hstate
    exact ⟨hready.current, hready.connection, hready.command⟩
  · intro htap
    rw [(hc.of_tap htap).lifecycle]
    rfl
  · rcases hc.lifecycle_live with hlive | hlive | hlive
    · simp [hlive, LifecycleStateMachine.state]
    · simp [hlive, LifecycleStateMachine.state]
    · simp [hlive, LifecycleStateMachine.state]

/-- A worker that has just taken a Pair command. -/
def samplePairing : Log .pro .direct × Frame .pro .direct :=
  play (scripted .ZERO (fun _ => some (.pair sampleTimeout)) fun _ => []) (sampleDirect.openLog, sampleDirect.start)

theorem samplePairing_run : Run samplePairing.1 samplePairing.2 :=
  have hopened : Run sampleDirect.openLog sampleDirect.start := .opened (.direct _ _)
  @Run.play _ _ (sampleDirect.openLog, sampleDirect.start) hopened _ (by decide +kernel)

/-- An output report with a subcommand and its argument. -/
def sampleSubcommand (id argument : UInt8) : TransportEvent :=
  .hidOutput .interrupt [0x01, 0, 0, 0, 0, 0, 0, 0, 0, 0, id, argument]

/-- The worker that was pairing, once the host has connected and made it ready. -/
def sampleReady : Log .pro .direct × Frame .pro .direct :=
  play (scripted .ZERO (fun _ => none) fun n => if n = 1 then [.connected, .hidChannelOpened .control,
    .hidChannelOpened .interrupt, sampleSubcommand 0x03 0x30, sampleSubcommand 0x40 0x01, sampleSubcommand 0x30 0x01]
    else []) samplePairing

theorem sampleReady_run : Run sampleReady.1 sampleReady.2 := samplePairing_run.play _ (by decide +kernel)

/-- The sample worker with button A held. -/
def sampleHeld : Log .pro .direct × Frame .pro .direct :=
  play (scripted .ZERO (fun _ => some (.input (.direct (.send (InputState.neutral.withButtons [.a]))))) fun _ => [])
    sampleReady

theorem sampleHeld_run : Run sampleHeld.1 sampleHeld.2 := sampleReady_run.play _ (by decide +kernel)

theorem worker_coherence_pairing : samplePairing.2.connection.isSome = true ∧
    samplePairing.2.lifecycle.state = .connecting :=
  have hsome : samplePairing.2.connection.isSome = true := by decide +kernel
  ⟨hsome, (worker_coherence samplePairing_run).2.1.2 hsome⟩

end Swbt
