import Swbt.Effects.Twin
import Swbt.Runtime.Worker
/-!
# Workers that differ in their sessions' names

Two workers resemble each other if they agree on all but the names of their
sessions and the count of the reports their hosts have taken. In one
environment every part of a step does the same in both.
-/

set_option autoImplicit false

open Effects

namespace Swbt

variable {m : ControllerKind} {r : ReportingKind} {α β : Type} {σ σ' : ConnectionSessionId}

/-! ## Without names -/

/-- The first id that is issued. -/
def ConnectionSessionId.first : ConnectionSessionId := ConnectionSessions.new.prepareNext

def ReadinessError.masked : ReadinessError → ReadinessError
  | staleSession _ _ => staleSession .first none
  | handshakeSessionMismatch _ _ => handshakeSessionMismatch .first .first
  | error => error

def ConnectionCommandFailure.masked : ConnectionCommandFailure → ConnectionCommandFailure
  | readiness error => readiness error.masked
  | failure => failure

def WorkerCommandError.masked : WorkerCommandError → WorkerCommandError
  | connection error => connection ⟨error.command, error.failure.masked⟩
  | error => error

def maskedResult : CommandResult → CommandResult := Except.mapError WorkerCommandError.masked

def StepProgress.masked (progress : StepProgress) : StepProgress :=
  { progress with commandResult := progress.commandResult.map maskedResult }

def WorkerStep.masked : WorkerStep → WorkerStep
  | «continue» progress => «continue» progress.masked
  | closed completion interrupted progress => closed completion (interrupted.map WorkerCommandError.masked) progress.masked
  | failed error progress => failed error progress.masked

def StatusCall.masked : StatusCall m → StatusCall m
  | beginSession _ lifecycle snapshot => beginSession .first lifecycle snapshot
  | setSenderState reportMode imuMode _ _ => setSenderState reportMode imuMode 0 0
  | call => call

def Output.masked : Output m → Output m
  | status call => status call.masked
  | processed event => processed (event.map fun event => ⟨.first, event.event⟩)
  | out => out

/-- The outputs differ in the names of sessions and in the counters alone. -/
def SameOutput (out out' : Output m) : Prop := out'.masked = out.masked

def SameStep (step step' : WorkerStep) : Prop := step'.masked = step.masked

def SameResult (result result' : CommandResult) : Prop := maskedResult result' = maskedResult result

/-! ## Resemblance -/

def Handshake.named (σ : ConnectionSessionId) (handshake : Handshake) : Handshake := { handshake with sessionId := σ }

def ReadinessGate.named (σ : ConnectionSessionId) (gate : ReadinessGate) : ReadinessGate :=
  ⟨σ, gate.operationDeadline, gate.handshake.map fun _ => ⟨σ⟩⟩

def ConnectionWork.named (σ : ConnectionSessionId) (work : ConnectionWork) : ConnectionWork :=
  ⟨σ, work.handshake.map (Handshake.named σ), work.readiness.named σ⟩

/-- Each is the session of its worker, or neither worker has one. -/
inductive Current (σ σ' : ConnectionSessionId) : Option ConnectionSessionId → Option ConnectionSessionId → Prop
  | none : Current σ σ' none none
  | some : Current σ σ' (some σ) (some σ')

/-- A worker in the session `σ` and one in the session `σ'`, if they are in one. -/
structure Resembles (σ σ' : ConnectionSessionId) (s s' : Frame m r) : Prop where
  lifecycle : s'.lifecycle = s.lifecycle
  input : s'.input = s.input
  reporting : s'.reporting = s.reporting
  committed : s'.sender.committed = s.sender.committed
  protocol : s'.protocol = s.protocol
  observed : s'.observed = s.observed
  current : Current σ σ' s.sessions.current s'.sessions.current
  connection : ∃ work : Option ConnectionWork, s.connection = work.map (ConnectionWork.named σ) ∧
    s'.connection = work.map (ConnectionWork.named σ')
  pending : s'.connectionCommandPending = s.connectionCommandPending
  connected : s'.connected = s.connected
  budget : s'.budget = s.budget
  progress : s'.progress.masked = s.progress.masked

/-- In one environment the two parts of a step do the same, and end alike. -/
abbrev Alike (σ σ' : ConnectionSessionId) (rel : α → β → Prop) (x : Worker m r α) (y : Worker m r β) : Prop :=
  Act.Twin (Resembles σ σ') SameOutput rel x y

namespace Alike

theorem update {f g : Frame m r → Frame m r} (hkeep : ∀ s s', Resembles σ σ' s s' → Resembles σ σ' (f s) (g s')) :
    Alike σ σ' Eq (update f) (update g) := Act.Twin.modify hkeep

theorem status (call : StatusCall m) : Alike σ σ' Eq (status (r := r) call) (status call) := Act.Twin.emit rfl

theorem call (op : Op) : Alike (m := m) (r := r) σ σ' Eq (Act.perform (E := WorkerInterface m r) op)
    (Act.perform (E := WorkerInterface m r) op) := Act.Twin.perform (E := WorkerInterface m r) op

theorem read {f g : Frame m r → Worker m r α} {rel : α → α → Prop}
    (hrest : ∀ s s', Resembles σ σ' s s' → Alike σ σ' rel (f s) (g s')) :
    Alike σ σ' rel (frame >>= f) (frame >>= g) := Act.Twin.bind Act.Twin.get hrest

/-- An action without the names that leads on to actions that are alike. -/
theorem next {γ δ : Type} {x : Worker m r γ} {rel : α → δ → Prop} {f : γ → Worker m r α} {g : γ → Worker m r δ}
    (hx : Alike σ σ' Eq x x) (hrest : ∀ a, Alike σ σ' rel (f a) (g a)) : Alike σ σ' rel (x >>= f) (x >>= g) := by
  refine Act.Twin.bind hx ?_
  rintro a b rfl
  exact hrest a

theorem publish {rel : α → β → Prop} {x : Worker m r α} {y : Worker m r β} (publish : Bool) (call : StatusCall m)
    (hrest : Alike σ σ' rel x y) :
    Alike σ σ' rel (if publish then do Swbt.status call; x else x) (if publish then do Swbt.status call; y else y) := by
  cases publish with
  | true => exact Act.Twin.bind (Alike.status call) fun _ _ _ => hrest
  | false => exact hrest

end Alike

/-! ## The input and the sender -/

theorem snapshot_alike : Alike σ σ' Eq (InputStateStore.snapshot (m := m) (r := r)) InputStateStore.snapshot := by
  unfold InputStateStore.snapshot
  refine Alike.read ?_
  intro s s' hs
  exact .pure hs.input.symm

theorem commit_alike (next : InputState m) :
    Alike σ σ' Eq (InputStateStore.commit (r := r) next) (InputStateStore.commit next) := by
  unfold InputStateStore.commit
  refine Alike.next (.update fun s s' hs => { hs with input := rfl }) ?_
  intro _
  refine Alike.read ?_
  intro s s' hs
  rw [hs.input]
  exact .status _

theorem publishStatus_alike :
    Alike σ σ' Eq (ReportSender.publishStatus (m := m) (r := r)) ReportSender.publishStatus := by
  unfold ReportSender.publishStatus
  refine Alike.read ?_
  intro s s' hs
  dsimp only
  rw [hs.committed]
  exact Act.Twin.emit rfl

theorem sendCandidate_alike (bytes : List UInt8) (candidate : SenderCommit) :
    Alike σ σ' Eq (ReportSender.sendCandidate (m := m) (r := r) bytes candidate)
      (ReportSender.sendCandidate bytes candidate) := by
  unfold ReportSender.sendCandidate
  refine Alike.next (.call (Op.sendInterrupt bytes)) ?_
  rintro (error | ⟨⟩)
  · exact .pure rfl
  · refine Alike.next (.update fun s s' hs => { hs with committed := rfl }) ?_
    intro _
    exact Alike.next publishStatus_alike fun _ => .pure rfl

theorem Resembles.inputCandidate {s s' : Frame m r} (hs : Resembles σ σ' s s') (state : InputState m) (nowNs : UInt64) :
    s'.sender.inputCandidate state nowNs = s.sender.inputCandidate state nowNs := by
  unfold ReportSender.inputCandidate
  rw [hs.committed]

theorem sendInput_alike (state : InputState m) (nowNs : UInt64) :
    Alike σ σ' Eq (ReportSender.sendInput (r := r) state nowNs) (ReportSender.sendInput state nowNs) := by
  unfold ReportSender.sendInput
  refine Alike.read ?_
  intro s s' hs
  rw [hs.inputCandidate]
  exact sendCandidate_alike _ _

theorem sendReply_alike (prepared : PreparedOutputAction) :
    Alike σ σ' Eq (ReportSender.sendReply (m := m) (r := r) prepared) (ReportSender.sendReply prepared) := by
  unfold ReportSender.sendReply
  refine Alike.read ?_
  intro s s' hs
  have hcandidate : s'.sender.replyCandidate prepared = s.sender.replyCandidate prepared := by
    unfold ReportSender.replyCandidate
    rw [hs.committed]
  rw [hcandidate]
  exact sendCandidate_alike _ _

theorem handleOutput_alike (channel : HidChannel) (raw : List UInt8) (current : InputState m) :
    Alike σ σ' Eq (handleOutput (r := r) channel raw current) (handleOutput channel raw current) := by
  unfold handleOutput
  cases parseOutputReport raw with
  | error error => exact .pure rfl
  | ok output =>
    refine Alike.next (.emit rfl) ?_
    intro _
    cases output with
    | rumble => exact .pure rfl
    | subcommand packetId bytes request =>
      refine Alike.next (.update fun s s' hs => { hs with observed := by rw [hs.observed] }) ?_
      intro _
      refine Alike.read ?_
      intro s s' hs
      rw [hs.observed]
      cases s.observed.last
      case' some id =>
        refine Alike.next (.status _) ?_
        intro _
      all_goals
        refine Alike.read ?_
        intro s s' hs
        have hreply : s'.sender.prepareReply s'.protocol request current =
            s.sender.prepareReply s.protocol request current := by
          unfold ReportSender.prepareReply
          rw [hs.committed, hs.protocol]
        rw [hreply]
        cases s.sender.prepareReply s.protocol request current with
        | error error => exact .pure rfl
        | ok prepared =>
          refine Alike.next (sendReply_alike prepared) ?_
          rintro (error | ⟨⟩)
          · exact .pure rfl
          · exact .pure rfl

/-! ## Cleanup -/

theorem sendNeutral_alike (sequence : CleanupSequence) (connected : Bool) (nowNs : UInt64) :
    Alike (m := m) (r := r) σ σ' Eq (sequence.sendNeutral connected nowNs) (sequence.sendNeutral connected nowNs) := by
  unfold CleanupSequence.sendNeutral
  split
  · refine Act.Twin.map (sendInput_alike _ _) ?_
    rintro a b rfl
    rfl
  · exact .pure rfl

theorem drain_alike (sequence : CleanupSequence) (failure : Option CleanupFailure) :
    Alike (m := m) (r := r) σ σ' Eq (sequence.drain failure) (sequence.drain failure) := by
  unfold CleanupSequence.drain
  split
  · refine Act.Twin.map (Alike.call (Op.drainInterrupt sequence.drainTimeout)) ?_
    rintro a b rfl
    rfl
  · exact .pure rfl

theorem cleanup_alike (sequence : CleanupSequence) (connected : Bool) (nowNs : UInt64) (publish : Bool) :
    Alike (m := m) (r := r) σ σ' Eq (sequence.run connected nowNs publish) (sequence.run connected nowNs publish) := by
  unfold CleanupSequence.run
  refine Alike.read ?_
  intro s s' hs
  rw [hs.lifecycle]
  obtain ⟨action, lifecycle⟩ := s.lifecycle.requestClose
  refine Alike.next (.update fun s s' hs => { hs with lifecycle := rfl }) ?_
  intro _
  dsimp only
  by_cases haction : action = .beginCleanup
  · rw [if_neg (not_not.2 haction)]
    refine Alike.publish _ _ ?_
    refine Alike.next (sendNeutral_alike _ _ _) ?_
    intro failure
    refine Alike.next (drain_alike _ _) ?_
    intro failure
    refine Alike.next (.call Op.disconnect) ?_
    intro disconnected
    refine Alike.next (.call Op.close) ?_
    intro closed
    exact Alike.publish _ _ (.pure rfl)
  · rw [if_pos haction]
    exact .pure rfl

/-! ## Periodic -/

theorem Resembles.periodic {s s' : Frame m .periodic} (hs : Resembles σ σ' s s') : s'.periodic = s.periodic := by
  unfold Frame.periodic
  rw [hs.reporting]

theorem Resembles.withPeriodic {s s' : Frame m .periodic} (hs : Resembles σ σ' s s') (runtime : PeriodicRuntime m) :
    Resembles σ σ' (s.withPeriodic runtime) (s'.withPeriodic runtime) := { hs with reporting := rfl }

theorem Resembles.withPolicy {s s' : Frame m .periodic} (hs : Resembles σ σ' s s') (policy : PeriodicPolicy) :
    Resembles σ σ' (s.withPolicy policy) (s'.withPolicy policy) := by
  unfold Frame.withPolicy
  rw [hs.periodic]
  exact hs.withPeriodic _

namespace Periodic

theorem setTap_alike (pendingTap : Option (ScheduledPeriodicTap m)) :
    Alike σ σ' Eq (update fun s => s.withPeriodic { s.periodic with pendingTap })
      (update fun s => s.withPeriodic { s.periodic with pendingTap }) := by
  refine .update ?_
  intro s s' hs
  rw [hs.periodic]
  exact hs.withPeriodic _

theorem commitAndSendCandidate_alike (candidate : InputState m) (nowNs : UInt64) :
    Alike σ σ' Eq (commitAndSendCandidate candidate nowNs) (commitAndSendCandidate candidate nowNs) := by
  unfold commitAndSendCandidate
  refine Alike.next (commit_alike _) ?_
  intro _
  refine Alike.next snapshot_alike ?_
  intro input
  exact sendInput_alike _ _

theorem finish_alike (tap : PendingPeriodicTap m) (nowNs : UInt64) : Alike σ σ' Eq (finish tap nowNs) (finish tap nowNs) := by
  unfold finish
  refine Alike.next (commitAndSendCandidate_alike _ _) ?_
  intro release
  split <;> exact .pure rfl

theorem beginTap_alike (ready : Bool) (plan : TapPlan m) (nowNs : UInt64) :
    Alike σ σ' Eq (beginTap ready plan nowNs) (beginTap ready plan nowNs) := by
  unfold beginTap
  split
  · exact .pure rfl
  · refine Alike.next (commitAndSendCandidate_alike _ _) ?_
    rintro (error | ⟨⟩)
    · dsimp only
      split <;> exact .pure rfl
    · exact .pure rfl

theorem completeInputCandidate_alike {r : ReportingKind} (candidate : Except Error (InputState m)) :
    Alike (r := r) σ σ' Eq (completeInputCandidate candidate) (completeInputCandidate candidate) := by
  unfold completeInputCandidate
  cases candidate with
  | error error => exact .pure rfl
  | ok candidate => exact Alike.next (commit_alike _) fun _ => .pure rfl

theorem handleCommand_alike (command : PeriodicCommand m) (ready : Bool) (now : Duration) :
    Alike σ σ' Eq (handleCommand command ready now) (handleCommand command ready now) := by
  unfold handleCommand
  cases command with
  | apply candidate => exact Alike.next (commit_alike _) fun _ => .pure rfl
  | common command =>
    cases command with
    | press buttons => exact Alike.next snapshot_alike fun _ => completeInputCandidate_alike _
    | release buttons => exact Alike.next snapshot_alike fun _ => completeInputCandidate_alike _
    | neutral => exact Alike.next (commit_alike _) fun _ => .pure rfl
    | tap buttons duration =>
      refine Alike.next snapshot_alike ?_
      intro input
      cases tapPlan input buttons duration with
      | error error => exact .pure rfl
      | ok plan =>
        refine Alike.next (beginTap_alike _ _ _) ?_
        rintro (error | tap)
        · exact .pure rfl
        · exact Alike.next (setTap_alike _) fun _ => .pure rfl

theorem handleEvent_alike (event : TransportEvent) :
    Alike (m := m) σ σ' Eq (handleEvent event) (handleEvent event) := by
  unfold handleEvent
  cases event with
  | disconnected reason =>
    refine Alike.read ?_
    intro s s' hs
    dsimp only
    rw [hs.periodic]
    exact Alike.next (setTap_alike none) fun _ => .pure rfl
  | _ => exact .pure rfl

theorem recordOutput_alike (completedAt : Duration) (completion : Except OutputHandlingError OutputHandling) :
    Alike (m := m) σ σ' Eq (recordOutput completedAt completion) (recordOutput completedAt completion) := by
  unfold recordOutput
  refine Alike.read ?_
  intro s s' hs
  rw [hs.periodic]
  cases s.periodic.policy.recordOutputCompletion completedAt completion with
  | error error => exact .pure rfl
  | ok policy => exact Alike.next (.update fun s s' hs => hs.withPolicy _) fun _ => .pure rfl

theorem sendDue_alike (now : Duration) :
    Alike (m := m) σ σ' Eq (PeriodicPolicy.sendDue now) (PeriodicPolicy.sendDue now) := by
  unfold PeriodicPolicy.sendDue
  refine Alike.read ?_
  intro s s' hs
  dsimp only
  rw [hs.periodic]
  cases s.periodic.policy.scheduler with
  | none => exact .pure rfl
  | some scheduler =>
    dsimp only
    cases s.periodic.policy.heldOff now with
    | some until_ => exact .pure rfl
    | none =>
      rcases scheduler.step now with error | ⟨_ | skipped, scheduler⟩
      · exact .pure rfl
      · exact .pure rfl
      · refine Alike.next (.update ?_) ?_
        · intro s s' hs
          rw [hs.periodic]
          exact hs.withPolicy _
        · intro _
          refine Alike.next (.call Op.interruptSendCapacityAvailable) ?_
          intro available
          split
          · exact .pure rfl
          · refine Alike.next snapshot_alike ?_
            intro input
            refine Alike.next (sendInput_alike _ _) ?_
            rintro (error | ⟨⟩)
            · exact .pure rfl
            · exact .pure rfl

theorem runRelease_alike (pending : ScheduledPeriodicTap m) (now : Duration) :
    Alike σ σ' Eq (runRelease pending now) (runRelease pending now) := by
  unfold runRelease
  refine Alike.next (setTap_alike none) ?_
  intro _
  refine Alike.next (finish_alike _ _) ?_
  rintro (error | ⟨⟩)
  · exact .pure rfl
  · exact .pure rfl

theorem runAutomatic_alike (now : Duration) : Alike (m := m) σ σ' Eq (runAutomatic now) (runAutomatic now) := by
  unfold runAutomatic
  refine Alike.next (sendDue_alike _) ?_
  intro sent
  split <;> exact .pure rfl

theorem runDue_alike (now : Duration) : Alike (m := m) σ σ' Eq (runDue now) (runDue now) := by
  unfold runDue
  refine Alike.read ?_
  intro s s' hs
  dsimp only
  rw [hs.periodic]
  split
  · cases s.periodic.pendingTap with
    | some pending => exact runRelease_alike _ _
    | none => exact Alike.next (.emit rfl) fun _ => .pure rfl
  · exact runAutomatic_alike now

theorem cancelForShutdown_alike : Alike (m := m) σ σ' Eq cancelForShutdown cancelForShutdown := by
  unfold cancelForShutdown
  refine Alike.read ?_
  intro s s' hs
  dsimp only
  rw [hs.periodic]
  exact Alike.next (setTap_alike none) fun _ => .pure rfl

end Periodic

/-! ## Direct -/

theorem Resembles.direct {s s' : Frame m .direct} (hs : Resembles σ σ' s s') : s'.direct = s.direct := by
  unfold Frame.direct
  rw [hs.reporting]

theorem Resembles.withDirect {s s' : Frame m .direct} (hs : Resembles σ σ' s s') (runtime : DirectRuntime m) :
    Resembles σ σ' (s.withDirect runtime) (s'.withDirect runtime) := { hs with reporting := rfl }

namespace Direct

theorem setTap_alike (pendingTap : Option (PendingDirectTap m)) :
    Alike σ σ' Eq (update fun s => s.withDirect { s.direct with pendingTap })
      (update fun s => s.withDirect { s.direct with pendingTap }) := by
  refine .update ?_
  intro s s' hs
  exact hs.withDirect _

theorem sendCandidate_alike (candidate : InputState m) (nowNs : UInt64) :
    Alike σ σ' Eq (sendCandidate candidate nowNs) (sendCandidate candidate nowNs) := by
  unfold sendCandidate
  refine Alike.next (sendInput_alike _ _) ?_
  rintro (error | ⟨⟩)
  · exact .pure rfl
  · exact Alike.next (commit_alike _) fun _ => .pure rfl

theorem finish_alike (tap : PendingDirectTap m) (now : Duration) : Alike σ σ' Eq (finish tap now) (finish tap now) := by
  unfold finish
  refine Alike.next (sendCandidate_alike _ _) ?_
  rintro (error | ⟨⟩)
  · exact .pure rfl
  · exact .pure rfl

theorem stepTap_alike (tap : PendingDirectTap m) (stimulus : TapStimulus) :
    Alike σ σ' Eq (stepTap tap stimulus) (stepTap tap stimulus) := by
  unfold stepTap
  split
  · refine Alike.next snapshot_alike ?_
    intro input
    exact Alike.next (handleOutput_alike _ _ _) fun _ => .pure rfl
  all_goals exact .pure rfl

theorem beginTap_alike (ready : Bool) (plan : TapPlan m) (startedAt : Duration) :
    Alike σ σ' Eq (beginTap ready plan startedAt) (beginTap ready plan startedAt) := by
  unfold beginTap
  split
  · exact .pure rfl
  · refine Alike.next (sendCandidate_alike _ _) ?_
    rintro (error | ⟨⟩)
    · exact .pure rfl
    · exact .pure rfl

theorem completeSend_alike (candidate : InputState m) (ready : Bool) (now : Duration) :
    Alike σ σ' Eq (completeSend candidate ready now) (completeSend candidate ready now) := by
  unfold completeSend
  split
  · exact .pure rfl
  · refine Alike.next (sendCandidate_alike _ _) ?_
    rintro (error | ⟨⟩)
    · exact .pure rfl
    · exact .pure rfl

theorem completeCandidate_alike (candidate : Except Error (InputState m)) (ready : Bool) (now : Duration) :
    Alike σ σ' Eq (completeCandidate candidate ready now) (completeCandidate candidate ready now) := by
  unfold completeCandidate
  cases candidate with
  | error error => exact .pure rfl
  | ok candidate => exact completeSend_alike _ _ _

theorem handleCommand_alike (command : DirectCommand m) (ready : Bool) (now : Duration) :
    Alike σ σ' Eq (handleCommand command ready now) (handleCommand command ready now) := by
  unfold handleCommand
  split
  · exact .pure rfl
  · cases command with
    | send candidate => exact completeSend_alike _ _ _
    | common command =>
      cases command with
      | press buttons => exact Alike.next snapshot_alike fun _ => completeCandidate_alike _ _ _
      | release buttons => exact Alike.next snapshot_alike fun _ => completeCandidate_alike _ _ _
      | neutral => exact completeSend_alike _ _ _
      | tap buttons duration =>
        refine Alike.next snapshot_alike ?_
        intro input
        cases tapPlan input buttons duration with
        | error error => exact .pure rfl
        | ok plan =>
          refine Alike.next (beginTap_alike _ _ _) ?_
          rintro (error | tap)
          · exact .pure rfl
          · exact Alike.next (setTap_alike _) fun _ => .pure rfl

theorem handleTapEvent_alike (tap : PendingDirectTap m) (event : TransportEvent) :
    Alike σ σ' Eq (handleTapEvent tap event) (handleTapEvent tap event) := by
  unfold handleTapEvent
  cases event with
  | hidOutput channel payload =>
    refine Alike.next (stepTap_alike _ _) ?_
    rintro (⟨tap, _ | output⟩ | result)
    · exact Alike.next (setTap_alike _) fun _ => Alike.next (.emit rfl) fun _ => .pure rfl
    · exact Alike.next (setTap_alike _) fun _ => .pure rfl
    · exact Alike.next (.emit rfl) fun _ => .pure rfl
  | disconnected reason =>
    refine Alike.next (stepTap_alike _ _) ?_
    rintro (⟨tap, output⟩ | (error | ⟨⟩))
    · exact Alike.next (setTap_alike _) fun _ => .pure rfl
    · exact .pure rfl
    · exact .pure rfl
  | _ => exact Alike.next (setTap_alike _) fun _ => .pure rfl

theorem handleEvent_alike (event : TransportEvent) :
    Alike (m := m) σ σ' Eq (handleEvent event) (handleEvent event) := by
  unfold handleEvent
  refine Alike.read ?_
  intro s s' hs
  rw [hs.direct]
  cases s.direct.pendingTap with
  | none => exact .pure rfl
  | some tap => exact Alike.next (setTap_alike _) fun _ => handleTapEvent_alike _ _

theorem runDue_alike (now : Duration) : Alike (m := m) σ σ' Eq (runDue now) (runDue now) := by
  unfold runDue
  refine Alike.read ?_
  intro s s' hs
  rw [hs.direct]
  cases s.direct.pendingTap with
  | none => exact .pure rfl
  | some tap =>
    dsimp only
    split
    · exact .pure rfl
    · refine Alike.next (setTap_alike _) ?_
      intro _
      refine Alike.next (finish_alike _ _) ?_
      rintro (error | ⟨⟩)
      · exact .pure rfl
      · exact .pure rfl

theorem cancelForShutdown_alike : Alike (m := m) σ σ' Eq cancelForShutdown cancelForShutdown := by
  unfold cancelForShutdown
  refine Alike.read ?_
  intro s s' hs
  rw [hs.direct]
  cases s.direct.pendingTap with
  | none => exact .pure rfl
  | some tap =>
    refine Alike.next (setTap_alike _) ?_
    intro _
    refine Alike.next (stepTap_alike _ _) ?_
    rintro (⟨tap, output⟩ | (error | ⟨⟩))
    · exact Alike.next (setTap_alike _) fun _ => .pure rfl
    · exact .pure rfl
    · exact .pure rfl

end Direct

/-! ## Both modes -/

namespace Reporting

theorem handleCommand_alike (command : ReportingCommand m r) (ready : Bool) (now : Duration) :
    Alike σ σ' Eq (handleCommand command ready now) (handleCommand command ready now) := by
  cases command with
  | periodic command => exact Periodic.handleCommand_alike _ _ _
  | direct command => exact Direct.handleCommand_alike _ _ _

theorem handleEvent_alike (event : TransportEvent) :
    Alike (m := m) (r := r) σ σ' Eq (handleEvent event) (handleEvent event) := by
  cases r with
  | periodic => exact Periodic.handleEvent_alike event
  | direct => exact Direct.handleEvent_alike event

theorem recordOutput_alike (completedAt : Duration) (completion : Except OutputHandlingError OutputHandling) :
    Alike (m := m) (r := r) σ σ' Eq (recordOutput completedAt completion) (recordOutput completedAt completion) := by
  cases r with
  | periodic => exact Periodic.recordOutput_alike _ _
  | direct => exact .pure rfl

theorem runDue_alike (now : Duration) : Alike (m := m) (r := r) σ σ' Eq (runDue now) (runDue now) := by
  cases r with
  | periodic => exact Periodic.runDue_alike now
  | direct => exact Direct.runDue_alike now

theorem cancelForShutdown_alike : Alike (m := m) (r := r) σ σ' Eq cancelForShutdown cancelForShutdown := by
  cases r with
  | periodic => exact Periodic.cancelForShutdown_alike
  | direct => exact Direct.cancelForShutdown_alike

end Reporting

end Swbt
