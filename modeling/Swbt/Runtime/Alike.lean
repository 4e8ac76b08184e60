import Swbt.Runtime.Resemblance
/-!
# A step of two workers that resemble each other

Every part of a step that begins no session does the same in both workers, up
to the names of their sessions.
-/

set_option autoImplicit false

open Effects

namespace Swbt

variable {m : ControllerKind} {r : ReportingKind} {σ σ' : ConnectionSessionId}

/-! ## Handshake -/

/-- The same progress, with the handshake of either worker after it. -/
def SameHandshake (σ σ' : ConnectionSessionId) (a b : Except HandshakeError HandshakeProgress × Handshake) : Prop :=
  ∃ progress handshake, a = (progress, Handshake.named σ handshake) ∧ b = (progress, Handshake.named σ' handshake)

namespace Handshake

theorem retry_named (σ : ConnectionSessionId) (handshake : Handshake) : (handshake.named σ).retry = handshake.retry := rfl

theorem recordBootstrapAttempt_named (handshake : Handshake) (observed : ObservedSubcommands) (protocolReady : Bool)
    (result : TransportResult Unit) : (handshake.named σ).recordBootstrapAttempt observed protocolReady result =
      (handshake.recordBootstrapAttempt observed protocolReady result).named σ := by
  unfold recordBootstrapAttempt
  rcases result with error | ⟨⟩
  · rfl
  · exact (apply_ite (named σ) (handshake.completionCondition.isSatisfied observed protocolReady = true)
      { handshake with bootstrapAccepted := true }.stopBootstrap { handshake with bootstrapAccepted := true }).symm

theorem attempt_alike (handshake : Handshake) (now : Duration) (skipped : UInt64) :
    Alike (m := m) (r := r) σ σ' (SameHandshake σ σ') ((handshake.named σ).attempt now skipped)
      ((handshake.named σ').attempt now skipped) := by
  unfold attempt sendBootstrap
  refine Alike.next (sendInput_alike _ _) ?_
  intro result
  refine Alike.read ?_
  intro s s' hs
  rw [hs.observed, hs.committed]
  exact .pure ⟨_, _, by rw [recordBootstrapAttempt_named], by rw [recordBootstrapAttempt_named]⟩

theorem step_alike (handshake : Handshake) (now : Duration) :
    Alike (m := m) (r := r) σ σ' (SameHandshake σ σ') ((handshake.named σ).step σ now)
      ((handshake.named σ').step σ' now) := by
  unfold step
  refine Alike.read ?_
  intro s s' hs
  rw [hs.observed, hs.committed]
  refine .ite (iff_of_false (not_not.2 rfl) (not_not.2 rfl)) (absurd rfl) ?_
  intro _
  refine .ite Iff.rfl (fun _ => .pure ⟨_, handshake, rfl, rfl⟩) ?_
  intro _
  refine .ite Iff.rfl (fun _ => .pure ⟨_, handshake, rfl, rfl⟩) ?_
  intro _
  refine .ite Iff.rfl (fun _ => .pure ⟨_, handshake.stopBootstrap, rfl, rfl⟩) ?_
  intro _
  rw [retry_named, retry_named]
  cases hretry : handshake.retry with
  | none =>
    cases ReportScheduler.start now bootstrapRetry with
    | error error => exact .pure ⟨_, handshake, rfl, rfl⟩
    | ok scheduler => exact attempt_alike { handshake with retry := some scheduler } now 0
  | some scheduler =>
    dsimp only
    refine .ite Iff.rfl (fun _ => .pure ⟨_, handshake, rfl, rfl⟩) ?_
    intro _
    rcases scheduler.step now with error | ⟨_ | skipped, scheduler⟩
    · exact .pure ⟨_, handshake, rfl, rfl⟩
    · exact .pure ⟨_, { handshake with retry := some scheduler }, rfl, rfl⟩
    · exact attempt_alike { handshake with retry := some scheduler } now skipped

end Handshake

/-! ## Readiness -/

/-- The evaluations differ in the names alone, and so may the errors in them. -/
inductive SameEvaluation (σ σ' : ConnectionSessionId) : Evaluation → Evaluation → Prop
  | failed {error error' : ReadinessError} {gate : ReadinessGate} {handshake : Option Handshake}
      (herror : error'.masked = error.masked) :
      SameEvaluation σ σ' ⟨.error error, gate.named σ, handshake.map (Handshake.named σ)⟩
        ⟨.error error', gate.named σ', handshake.map (Handshake.named σ')⟩
  | pending {wait : ReadinessWait} {gate : ReadinessGate} {handshake : Option Handshake} :
      SameEvaluation σ σ' ⟨.ok (.pending wait), gate.named σ, handshake.map (Handshake.named σ)⟩
        ⟨.ok (.pending wait), gate.named σ', handshake.map (Handshake.named σ')⟩
  | ready {gate : ReadinessGate} {handshake : Option Handshake} :
      SameEvaluation σ σ' ⟨.ok (.ready σ), gate.named σ, handshake.map (Handshake.named σ)⟩
        ⟨.ok (.ready σ'), gate.named σ', handshake.map (Handshake.named σ')⟩

/-- Both checks pass, or both fail for the same reason. -/
inductive SameCheck : Except ReadinessError Unit → Except ReadinessError Unit → Prop
  | passed : SameCheck (.ok ()) (.ok ())
  | failed {error error' : ReadinessError} (herror : error'.masked = error.masked) : SameCheck (.error error) (.error error')

namespace ReadinessGate

theorem sessionId_named (σ : ConnectionSessionId) (gate : ReadinessGate) : (gate.named σ).sessionId = σ := rfl

theorem ensureActive_alike {s s' : Frame m r} (hs : Resembles σ σ' s s') (gate : ReadinessGate) (now : Duration) :
    SameCheck ((gate.named σ).ensureActive now s.sessions) ((gate.named σ').ensureActive now s'.sessions) := by
  have hcurrent := hs.current
  unfold ensureActive ensureCurrent
  generalize s.sessions.current = current at hcurrent ⊢
  generalize s'.sessions.current = current' at hcurrent ⊢
  cases hcurrent with
  | none => exact .failed rfl
  | some =>
    rw [sessionId_named, sessionId_named, if_pos rfl, if_pos rfl]
    change SameCheck (gate.ensureBeforeTimeout now) (gate.ensureBeforeTimeout now)
    unfold ensureBeforeTimeout
    split
    · exact .passed
    · exact .failed rfl

/-- The names of a gate and its handshake always match. -/
theorem collectHandshake_named (gate : ReadinessGate) (handshake : Option Handshake) :
    ∃ collected gate' handshake', ∀ σ, (gate.named σ).collectHandshake (handshake.map (Handshake.named σ)) =
      .ok (collected, ReadinessGate.named σ gate', Option.map (Handshake.named σ) handshake') := by
  unfold collectHandshake
  rcases gate with ⟨id, deadline, _ | completion⟩
  · cases handshake with
    | none => exact ⟨false, ⟨id, deadline, none⟩, none, fun σ => rfl⟩
    | some handshake =>
      cases hstopped : handshake.bootstrapStopped with
      | false =>
        refine ⟨false, ⟨id, deadline, none⟩, some handshake, ?_⟩
        intro σ
        have hcompletion : (handshake.named σ).completion = none := if_neg (ne_true_of_eq_false hstopped)
        simp [named, hcompletion]
      | true =>
        refine ⟨true, ⟨id, deadline, some ⟨id⟩⟩, none, ?_⟩
        intro σ
        have hcompletion : (handshake.named σ).completion = some ⟨σ⟩ := if_pos hstopped
        simp [named, hcompletion]
  · exact ⟨true, ⟨id, deadline, some completion⟩, handshake, fun σ => rfl⟩

theorem takeReadySession_alike (gate : ReadinessGate) :
    Alike (m := m) (r := r) σ σ' (fun a b => ∃ gate, a = (σ, ReadinessGate.named σ gate) ∧ b = (σ', gate.named σ'))
      (gate.named σ).takeReadySession (gate.named σ').takeReadySession := by
  unfold takeReadySession
  rcases gate with ⟨id, deadline, _ | ⟨completion⟩⟩
  · refine Alike.next (.emit rfl) ?_
    intro _
    exact .pure ⟨⟨id, deadline, none⟩, rfl, rfl⟩
  · exact .pure ⟨⟨id, deadline, none⟩, rfl, rfl⟩

theorem evaluateDirect_alike (gate : ReadinessGate) (now : Duration) (handshake : Option Handshake) :
    Alike (m := m) σ σ' (SameEvaluation σ σ')
      ((gate.named σ).evaluateDirect now (handshake.map (Handshake.named σ)))
      ((gate.named σ').evaluateDirect now (handshake.map (Handshake.named σ'))) := by
  unfold evaluateDirect
  refine Alike.read ?_
  intro s s' hs
  have hactive := ensureActive_alike hs gate now
  generalize (gate.named σ).ensureActive now s.sessions = active at hactive ⊢
  generalize (gate.named σ').ensureActive now s'.sessions = active' at hactive ⊢
  cases hactive with
  | failed herror => exact .pure (.failed herror)
  | passed =>
    obtain ⟨collected, gate', handshake', hcollected⟩ := collectHandshake_named gate handshake
    rw [hcollected σ, hcollected σ', hs.committed]
    cases collected with
    | false => exact .pure .pending
    | true =>
      refine .ite Iff.rfl (fun _ => .pure .pending) ?_
      intro _
      refine .bind (takeReadySession_alike gate') ?_
      rintro a b ⟨gate'', rfl, rfl⟩
      exact .pure .ready

theorem startReporting_alike (now : Duration) : Alike (m := m) σ σ' Eq (startReporting now) (startReporting now) := by
  unfold startReporting
  refine Alike.read ?_
  intro s s' hs
  rw [hs.committed, hs.periodic]
  refine .ite Iff.rfl ?_ fun _ => .pure rfl
  intro _
  rcases s.periodic.policy.startWhenUnheld now with error | ⟨start, policy⟩
  · exact .pure rfl
  · exact Alike.next (.update fun s s' hs => hs.withPolicy policy) fun _ => .pure rfl

theorem evaluatePeriodic_alike (gate : ReadinessGate) (now : Duration) (handshake : Option Handshake) :
    Alike (m := m) σ σ' (SameEvaluation σ σ')
      ((gate.named σ).evaluatePeriodic now (handshake.map (Handshake.named σ)))
      ((gate.named σ').evaluatePeriodic now (handshake.map (Handshake.named σ'))) := by
  unfold evaluatePeriodic
  refine Alike.read ?_
  intro s s' hs
  have hactive := ensureActive_alike hs gate now
  generalize (gate.named σ).ensureActive now s.sessions = active at hactive ⊢
  generalize (gate.named σ').ensureActive now s'.sessions = active' at hactive ⊢
  cases hactive with
  | failed herror => exact .pure (.failed herror)
  | passed =>
    obtain ⟨collected, gate', handshake', hcollected⟩ := collectHandshake_named gate handshake
    rw [hcollected σ, hcollected σ', hs.committed]
    cases collected with
    | false => exact .pure .pending
    | true =>
      refine Alike.next (startReporting_alike now) ?_
      rintro (error | reporting)
      · exact .pure (.failed rfl)
      · refine .ite Iff.rfl (fun _ => .pure .pending) ?_
        intro _
        rcases reporting with _ | until_ | first
        · exact Alike.next (.emit rfl) fun _ => .pure .pending
        · exact .pure .pending
        · refine .bind (takeReadySession_alike gate') ?_
          rintro a b ⟨gate'', rfl, rfl⟩
          exact .pure .ready

end ReadinessGate

theorem Reporting.evaluateReadiness_alike (gate : ReadinessGate) (now : Duration) (handshake : Option Handshake) :
    Alike (m := m) (r := r) σ σ' (SameEvaluation σ σ')
      (Reporting.evaluateReadiness (gate.named σ) now (handshake.map (Handshake.named σ)))
      (Reporting.evaluateReadiness (gate.named σ') now (handshake.map (Handshake.named σ'))) := by
  cases r with
  | periodic => exact gate.evaluatePeriodic_alike now handshake
  | direct => exact gate.evaluateDirect_alike now handshake

/-! ## Progress -/

theorem modifyProgress_masked {f g : StepProgress → StepProgress}
    (hmasked : ∀ progress progress', progress'.masked = progress.masked → (g progress').masked = (f progress).masked) :
    Alike (m := m) (r := r) σ σ' Eq (modifyProgress f) (modifyProgress g) :=
  .update fun _ _ hs => { hs with progress := hmasked _ _ hs.progress }

theorem modifyProgress_alike {f : StepProgress → StepProgress} (hmasked : ∀ progress, (f progress).masked = f progress.masked) :
    Alike (m := m) (r := r) σ σ' Eq (modifyProgress f) (modifyProgress f) := by
  refine modifyProgress_masked ?_
  intro progress progress' hsame
  rw [hmasked, hmasked, hsame]

/-- The same progress of a command, up to names in its result. -/
inductive SameProgress : WorkerCommandProgress → WorkerCommandProgress → Prop
  | pending : SameProgress .pending .pending
  | complete {result result' : CommandResult} (hresult : SameResult result result') :
      SameProgress (.complete result) (.complete result')

theorem SameProgress.refl (progress : WorkerCommandProgress) : SameProgress progress progress := by
  cases progress with
  | pending => exact .pending
  | complete result => exact .complete rfl

theorem recordCommandProgress_alike {progress progress' : WorkerCommandProgress} (hsame : SameProgress progress progress') :
    Alike (m := m) (r := r) σ σ' Eq (recordCommandProgress progress) (recordCommandProgress progress') := by
  unfold recordCommandProgress
  cases hsame with
  | pending => exact .pure rfl
  | complete hresult =>
    rename_i result result'
    refine Alike.read ?_
    intro s s' hs
    have hanswered : s'.progress.commandResult.isSome = s.progress.commandResult.isSome := by
      have hsame := congrArg (fun progress : StepProgress => progress.commandResult.isSome) hs.progress
      simpa [StepProgress.masked] using hsame
    dsimp only
    rw [hanswered]
    refine Act.Twin.bind (modifyProgress_masked ?_) ?_
    · intro progress progress' hsame
      change { progress'.masked with commandResult := some (maskedResult result') } =
        { progress.masked with commandResult := some (maskedResult result) }
      rw [hsame, hresult]
    · rintro _ _ -
      exact .ite Iff.rfl (fun _ => .emit rfl) fun _ => .pure rfl

theorem pushOperationError_alike (error : WorkerOperationError) :
    Alike (m := m) (r := r) σ σ' Eq (pushOperationError error) (pushOperationError error) := modifyProgress_alike fun _ => rfl

theorem recordOperationError_alike (error : WorkerOperationError) :
    Alike (m := m) (r := r) σ σ' Eq (recordOperationError error) (recordOperationError error) := by
  unfold recordOperationError
  dsimp only
  refine Alike.next (pushOperationError_alike _) ?_
  intro _
  cases (nonterminalOperationError error).2 with
  | none => exact .pure rfl
  | some error => exact .pure rfl

/-! ## The end of a session -/

theorem completeConnectionCommand_alike {result result' : CommandResult} (hresult : SameResult result result') :
    Alike (m := m) (r := r) σ σ' Eq (completeConnectionCommand result) (completeConnectionCommand result') := by
  unfold completeConnectionCommand
  refine Alike.read ?_
  intro s s' hs
  rw [hs.pending]
  cases s.connectionCommandPending with
  | none => exact .pure rfl
  | some command =>
    refine Alike.next (.update fun s s' hs => { hs with pending := rfl }) ?_
    intro _
    refine .bind (recordCommandProgress_alike (.complete hresult)) ?_
    rintro _ _ -
    exact modifyProgress_alike fun _ => rfl

theorem completeConnectionFailure_alike {failure failure' : ConnectionCommandFailure} (hfailure : failure'.masked = failure.masked) :
    Alike (m := m) (r := r) σ σ' Eq (completeConnectionFailure failure) (completeConnectionFailure failure') := by
  unfold completeConnectionFailure
  refine Alike.read ?_
  intro s s' hs
  rw [hs.pending]
  cases s.connectionCommandPending with
  | none => exact .pure rfl
  | some command =>
    refine completeConnectionCommand_alike ?_
    change Except.error (WorkerCommandError.connection ⟨command, failure'.masked⟩) =
      Except.error (WorkerCommandError.connection ⟨command, failure.masked⟩)
    rw [hfailure]

theorem endCurrentSession_eq : (endCurrentSession : Worker m r Unit) =
    update fun s => { s with sessions := { s.sessions with current := none } } := by
  unfold endCurrentSession
  refine congrArg update (funext ?_)
  intro s
  split
  · rename_i sessionId hcurrent
    unfold ConnectionSessions.endCurrent
    rw [if_neg (not_not.2 hcurrent)]
  · rename_i hcurrent
    rw [← hcurrent]

theorem endCurrentSession_alike : Alike (m := m) (r := r) σ σ' Eq endCurrentSession endCurrentSession := by
  rw [endCurrentSession_eq]
  exact .update fun s s' hs => { hs with current := .none }

theorem endSession_alike (reason : Option UInt8) :
    Alike (m := m) (r := r) σ σ' Eq (endSession reason) (endSession reason) := by
  unfold endSession
  refine Alike.next endCurrentSession_alike ?_
  intro _
  refine Alike.next (.update fun s s' hs => { hs with connected := rfl }) ?_
  intro _
  refine Alike.next (.update fun s s' hs => { hs with reporting := congrArg Reporting.stopSession hs.reporting }) ?_
  intro _
  refine Alike.next (.update fun s s' hs => { hs with lifecycle := congrArg LifecycleStateMachine.markConnectionEnded hs.lifecycle }) ?_
  intro _
  refine Alike.read ?_
  intro s s' hs
  rw [hs.lifecycle]
  exact .status _

theorem failConnection_alike {error error' : ReadinessError} (herror : error'.masked = error.masked) :
    Alike (m := m) (r := r) σ σ' Eq (failConnection error) (failConnection error') := by
  unfold failConnection
  refine .bind (completeConnectionFailure_alike (congrArg ConnectionCommandFailure.readiness herror)) ?_
  rintro _ _ -
  exact pushOperationError_alike _

theorem abortConnection_alike {error error' : ReadinessError} (herror : error'.masked = error.masked) :
    Alike (m := m) (r := r) σ σ' Eq (abortConnection error) (abortConnection error') := by
  unfold abortConnection
  refine .bind (failConnection_alike herror) ?_
  rintro _ _ -
  exact endSession_alike none

theorem dropWork_alike : Alike (m := m) (r := r) σ σ' Eq (update fun s => { s with connection := none })
    (update fun s => { s with connection := none }) :=
  .update fun _ _ hs => { hs with connection := ⟨none, rfl, rfl⟩ }

theorem endConnection_alike (reason : Option UInt8) (completion : Option WorkerCommandError) :
    Alike (m := m) (r := r) σ σ' Eq (endConnection reason completion) (endConnection reason completion) := by
  unfold endConnection
  cases completion
  case' some error =>
    refine Alike.next (recordCommandProgress_alike (.refl _)) ?_
    intro _
    refine Alike.next (modifyProgress_alike fun _ => rfl) ?_
    intro _
  all_goals
    refine Alike.read ?_
    intro s s' hs
    obtain ⟨work, hwork, hwork'⟩ := hs.connection
    rw [hwork, hwork']
    cases work with
    | none => exact endSession_alike reason
    | some work =>
      refine Alike.next dropWork_alike ?_
      intro _
      exact Alike.next (failConnection_alike rfl) fun _ => endSession_alike reason

theorem dropConnection_alike : Alike (m := m) (r := r) σ σ' Eq dropConnection dropConnection := by
  unfold dropConnection
  refine Alike.next (.update fun s s' hs => { hs with connected := rfl }) ?_
  intro _
  exact Alike.next dropWork_alike fun _ => endCurrentSession_alike

/-! ## The end of a worker -/

theorem Alike.endStep {f : StepProgress → WorkerStep}
    (hmasked : ∀ progress progress', progress'.masked = progress.masked → SameStep (f progress) (f progress')) :
    Alike (m := m) (r := r) σ σ' SameStep (do return f (← frame).progress) (do return f (← frame).progress) :=
  Alike.read fun _ _ hs => .pure (hmasked _ _ hs.progress)

theorem close_alike (request : ShutdownRequest) (now : Duration) :
    Alike (m := m) (r := r) σ σ' SameStep (close request now) (close request now) := by
  unfold close
  refine Alike.next (completeConnectionCommand_alike rfl) ?_
  intro _
  refine Alike.next Reporting.cancelForShutdown_alike ?_
  intro interrupted
  refine Alike.next (.update fun s s' hs => { hs with reporting := congrArg Reporting.stopSession hs.reporting }) ?_
  intro _
  refine Alike.read ?_
  intro s s' hs
  rw [hs.connected]
  refine Alike.next (cleanup_alike _ _ _ _) ?_
  intro completion
  refine Alike.next dropConnection_alike ?_
  intro _
  refine Alike.next (.status _) ?_
  intro _
  refine Alike.endStep ?_
  intro progress progress' hsame
  exact congrArg (WorkerStep.closed completion _) hsame

theorem fail_alike (error : WorkerCoreError) : Alike (m := m) (r := r) σ σ' SameStep (fail error) (fail error) := by
  unfold fail
  refine Alike.next (completeConnectionFailure_alike rfl) ?_
  intro _
  refine Alike.next (.update fun s s' hs => { hs with lifecycle := congrArg LifecycleStateMachine.markFailed hs.lifecycle }) ?_
  intro _
  refine Alike.next (.update fun s s' hs => { hs with connected := rfl }) ?_
  intro _
  refine Alike.next (.status _) ?_
  intro _
  exact Alike.endStep fun _ _ hsame => congrArg (WorkerStep.failed error) hsame

/-- Both go on, or both end in the same step. -/
inductive SameExit : Option WorkerStep → Option WorkerStep → Prop
  | none : SameExit none none
  | some {step step' : WorkerStep} (hstep : SameStep step step') : SameExit (some step) (some step')

theorem closeIfRequested_alike : Alike (m := m) (r := r) σ σ' SameExit closeIfRequested closeIfRequested := by
  unfold closeIfRequested
  refine Alike.next (.call Op.takeShutdown) ?_
  rintro (_ | request)
  · exact .pure .none
  · refine Alike.next (.call Op.now) ?_
    intro now
    refine .bind (close_alike request now) ?_
    intro step step' hstep
    exact .pure (.some hstep)

theorem failOrClose_alike (error : WorkerCoreError) :
    Alike (m := m) (r := r) σ σ' SameStep (failOrClose error) (failOrClose error) := by
  unfold failOrClose
  refine .bind closeIfRequested_alike ?_
  rintro _ _ (_ | hstep)
  · exact fail_alike error
  · exact .pure hstep

/-! ## Driving a connection -/

theorem noteHandshakeProgress_alike (progress : HandshakeProgress) :
    Alike (m := m) (r := r) σ σ' Eq (noteHandshakeProgress progress) (noteHandshakeProgress progress) := by
  unfold noteHandshakeProgress
  cases progress with
  | waitingUntil deadline => exact Alike.next (modifyProgress_alike fun _ => rfl) fun _ => .pure rfl
  | bootstrapAttempted result skipped =>
    refine Alike.next (modifyProgress_alike fun _ => rfl) ?_
    intro _
    rcases result with error | ⟨⟩
    · refine .ite Iff.rfl ?_ fun _ => .pure rfl
      intro _
      exact Alike.next (pushOperationError_alike _) fun _ => .pure rfl
    · exact .pure rfl
  | _ => exact .pure rfl

/-- The same result, with the work of either worker after it. -/
def SameWork (σ σ' : ConnectionSessionId) (a b : Except WorkerCoreError Nat × ConnectionWork) : Prop :=
  ∃ result work, a = (result, ConnectionWork.named σ work) ∧ b = (result, ConnectionWork.named σ' work)

theorem driveHandshake_alike (work : ConnectionWork) (now : Duration) :
    Alike (m := m) (r := r) σ σ' (SameWork σ σ') (driveHandshake (work.named σ) now) (driveHandshake (work.named σ') now) := by
  unfold driveHandshake
  obtain ⟨id, handshake, gate⟩ := work
  cases handshake with
  | none => exact .pure ⟨_, ⟨id, none, gate⟩, rfl, rfl⟩
  | some handshake =>
    refine .bind (handshake.step_alike now) ?_
    rintro _ _ ⟨progress, handshake, rfl, rfl⟩
    rcases progress with error | progress
    · exact .pure ⟨_, ⟨id, some handshake, gate⟩, rfl, rfl⟩
    · refine Alike.next (noteHandshakeProgress_alike progress) ?_
      intro result
      exact .pure ⟨_, ⟨id, some handshake, gate⟩, rfl, rfl⟩

theorem putWork_alike {α : Type} (work : ConnectionWork) (result : α) : Alike (m := m) (r := r) σ σ' Eq
    (do
      update fun s => { s with connection := some (work.named σ) }
      return result)
    (do
      update fun s => { s with connection := some (work.named σ') }
      return result) :=
  .bind (Alike.update fun _ _ hs => { hs with connection := ⟨some work, rfl, rfl⟩ }) fun _ _ _ => .pure rfl

theorem driveReadiness_alike (work : ConnectionWork) (now : Duration) (actions : Nat) :
    Alike (m := m) (r := r) σ σ' Eq (driveReadiness (work.named σ) now actions)
      (driveReadiness (work.named σ') now actions) := by
  unfold driveReadiness
  refine .bind (Reporting.evaluateReadiness_alike work.readiness now work.handshake) ?_
  intro evaluation evaluation' hsame
  cases hsame with
  | failed herror => exact .bind (abortConnection_alike herror) fun _ _ _ => .pure rfl
  | pending =>
    rename_i wait gate handshake
    exact putWork_alike ⟨work.sessionId, handshake, gate⟩ _
  | ready =>
    rename_i gate handshake
    refine Alike.read ?_
    intro s s' hs
    rw [hs.lifecycle]
    cases s.lifecycle.markReady with
    | none => exact putWork_alike ⟨work.sessionId, handshake, gate⟩ _
    | some lifecycle =>
      refine .ite (iff_of_false (not_not.2 rfl) (not_not.2 rfl)) (absurd rfl) ?_
      intro _
      refine Alike.next (.update fun s s' hs => { hs with lifecycle := rfl }) ?_
      intro _
      refine Alike.next (.status _) ?_
      intro _
      exact Alike.next (completeConnectionCommand_alike rfl) fun _ => .pure rfl

theorem driveConnection_alike (now : Duration) :
    Alike (m := m) (r := r) σ σ' Eq (driveConnection now) (driveConnection now) := by
  unfold driveConnection
  refine Alike.read ?_
  intro s s' hs
  obtain ⟨work, hwork, hwork'⟩ := hs.connection
  rw [hwork, hwork']
  cases work with
  | none => exact .pure rfl
  | some work =>
    refine Alike.next dropWork_alike ?_
    intro _
    refine Alike.read ?_
    intro s s' hs
    have hactive : SameCheck ((work.named σ).readiness.ensureActive now s.sessions)
        ((work.named σ').readiness.ensureActive now s'.sessions) := ReadinessGate.ensureActive_alike hs work.readiness now
    generalize (work.named σ).readiness.ensureActive now s.sessions = active at hactive ⊢
    generalize (work.named σ').readiness.ensureActive now s'.sessions = active' at hactive ⊢
    cases hactive with
    | failed herror => exact .bind (abortConnection_alike herror) fun _ _ _ => .pure rfl
    | passed =>
      refine .bind (driveHandshake_alike work now) ?_
      rintro _ _ ⟨result, work, rfl, rfl⟩
      rcases result with error | actions
      · exact putWork_alike work _
      · exact driveReadiness_alike work now actions

theorem drive_alike : Alike (m := m) (r := r) σ σ' SameExit drive drive := by
  unfold drive
  refine Alike.next (.call Op.now) ?_
  intro now
  refine Alike.next (driveConnection_alike now) ?_
  rintro (error | actions)
  · refine .bind (failOrClose_alike error) ?_
    intro step step' hstep
    exact .pure (.some hstep)
  · refine Alike.next (modifyProgress_alike fun _ => rfl) ?_
    intro _
    exact closeIfRequested_alike

/-! ## Events -/

theorem recordOutput_alike (completedAt : Duration) (completion : Except OutputHandlingError OutputHandling) :
    Alike (m := m) (r := r) σ σ' Eq (recordOutput completedAt completion) (recordOutput completedAt completion) := by
  unfold recordOutput
  refine Alike.next (Reporting.recordOutput_alike _ _) ?_
  rintro (error | ⟨⟩)
  · refine Alike.next (recordOperationError_alike _) ?_
    rintro (error | ⟨⟩)
    · exact .pure rfl
    · cases completion with
      | ok handling => exact .pure rfl
      | error error => exact recordOperationError_alike _
  · cases completion with
    | ok handling => exact .pure rfl
    | error error => exact recordOperationError_alike _

theorem completeOutput_alike (completion : Except OutputHandlingError OutputHandling) :
    Alike (m := m) (r := r) σ σ' Eq (completeOutput completion) (completeOutput completion) := by
  unfold completeOutput
  refine Alike.next (.call Op.now) ?_
  intro now
  refine Alike.next (recordOutput_alike _ _) ?_
  rintro (error | ⟨⟩)
  · exact .pure rfl
  · exact .pure rfl

theorem updateHandshake_alike {f : ConnectionSessionId → Handshake → Handshake}
    (hnamed : ∀ handshake : Handshake, ∃ after, ∀ σ, f σ (handshake.named σ) = Handshake.named σ after) :
    Alike (m := m) (r := r) σ σ' Eq (updateHandshake f) (updateHandshake f) := by
  refine .update ?_
  intro s s' hs
  obtain ⟨work, hwork, hwork'⟩ := hs.connection
  refine { hs with connection := ?_ }
  dsimp only
  rw [hwork, hwork']
  rcases work with _ | ⟨id, _ | handshake, gate⟩
  · exact ⟨none, rfl, rfl⟩
  · exact ⟨some ⟨id, none, gate⟩, rfl, rfl⟩
  · obtain ⟨after, hafter⟩ := hnamed handshake
    refine ⟨some ⟨id, some after, gate⟩, ?_, ?_⟩
    · simp [ConnectionWork.named, hafter]
    · simp [ConnectionWork.named, hafter]

theorem applyReported_alike (event : ReportingEvent) :
    Alike (m := m) (r := r) σ σ' Eq (applyReported event) (applyReported event) := by
  unfold applyReported
  rcases event with (_ | channel | ⟨channel, payload⟩ | reason) | completion | ⟨reason, completion⟩
  · refine Alike.next (.update fun s s' hs => { hs with connected := rfl }) ?_
    intro _
    refine Alike.next (.status _) ?_
    intro _
    refine Alike.next (updateHandshake_alike ?_) fun _ => .pure rfl
    intro handshake
    exact ⟨{ handshake with linkObserved := true }, fun σ => if_pos rfl⟩
  · refine Alike.next (updateHandshake_alike ?_) fun _ => .pure rfl
    intro handshake
    cases channel with
    | control => exact ⟨{ handshake with controlObserved := true }, fun σ => if_neg (not_not.2 rfl)⟩
    | interrupt => exact ⟨{ handshake with interruptObserved := true }, fun σ => if_neg (not_not.2 rfl)⟩
  · refine Alike.next snapshot_alike ?_
    intro input
    refine Alike.next (handleOutput_alike _ _ _) ?_
    intro completion
    exact completeOutput_alike completion
  · exact Alike.next (endConnection_alike _ _) fun _ => .pure rfl
  · exact completeOutput_alike completion
  · exact Alike.next (endConnection_alike _ _) fun _ => .pure rfl

theorem applyEvent_alike (event : TransportEvent) :
    Alike (m := m) (r := r) σ σ' Eq (applyEvent event) (applyEvent event) := by
  unfold applyEvent
  refine Alike.next (Reporting.handleEvent_alike event) ?_
  intro reported
  exact applyReported_alike reported

/-- An event is of the session of either worker. -/
theorem handleEvent_alike (event : TransportEvent) :
    Alike (m := m) (r := r) σ σ' Eq (handleEvent ⟨σ, event⟩) (handleEvent ⟨σ', event⟩) := by
  unfold handleEvent
  refine Alike.read ?_
  intro s s' hs
  have hcurrent := hs.current
  unfold ConnectionSessions.takeCurrent
  generalize s.sessions.current = current at hcurrent ⊢
  generalize s'.sessions.current = current' at hcurrent ⊢
  cases hcurrent with
  | none => exact Alike.next (.emit rfl) fun _ => .pure rfl
  | some =>
    rw [if_pos rfl, if_pos rfl]
    exact .bind (.emit rfl) fun _ _ _ => applyEvent_alike event

/-- The tags of events that were polled in a session of either worker, or in none. -/
inductive SameTag (σ σ' : ConnectionSessionId) : Option SessionEvent → Option SessionEvent → Prop
  | none : SameTag σ σ' none none
  | some {event : TransportEvent} : SameTag σ σ' (some ⟨σ, event⟩) (some ⟨σ', event⟩)

theorem tags_alike {sessions sessions' : ConnectionSessions} (hcurrent : Current σ σ' sessions.current sessions'.current)
    (events : List TransportEvent) :
    List.Forall₂ (SameTag σ σ') (events.map sessions.tagCurrent) (events.map sessions'.tagCurrent) := by
  have htag : ∀ event, SameTag σ σ' (sessions.tagCurrent event) (sessions'.tagCurrent event) := by
    intro event
    unfold ConnectionSessions.tagCurrent
    generalize sessions.current = current at hcurrent ⊢
    generalize sessions'.current = current' at hcurrent ⊢
    cases hcurrent with
    | none => exact .none
    | some => exact .some
  induction events with
  | nil => exact .nil
  | cons event events ih => exact .cons (htag event) ih

theorem topologyDrive_alike (topologyChanged : Bool) : Alike (m := m) (r := r) σ σ' SameExit
    (if topologyChanged then drive else pure none) (if topologyChanged then drive else pure none) :=
  .ite Iff.rfl (fun _ => drive_alike) fun _ => .pure .none

theorem handleEvents_alike {events events' : List (Option SessionEvent)} (htags : List.Forall₂ (SameTag σ σ') events events') :
    Alike (m := m) (r := r) σ σ' SameExit (handleEvents events) (handleEvents events') := by
  induction htags with
  | nil => exact .pure .none
  | cons htag htags ih =>
    unfold handleEvents
    refine Alike.next (modifyProgress_alike fun _ => rfl) ?_
    intro _
    cases htag
    case' none =>
      refine Alike.next (.emit rfl) ?_
      intro _
      refine .bind (.pure (rfl : (Except.ok false : Except WorkerCoreError Bool) = .ok false)) ?_
    case' some => refine .bind (handleEvent_alike _) ?_
    all_goals
      rintro (error | topologyChanged) _ rfl
      · refine .bind (failOrClose_alike error) ?_
        intro step step' hstep
        exact .pure (.some hstep)
      · refine .bind closeIfRequested_alike ?_
        rintro _ _ (_ | hstep)
        · refine .bind (topologyDrive_alike topologyChanged) ?_
          rintro _ _ (_ | hstep)
          · exact ih
          · exact .pure (.some hstep)
        · exact .pure (.some hstep)

theorem pollBatches_alike (remaining : Nat) :
    Alike (m := m) (r := r) σ σ' SameExit (pollBatches remaining) (pollBatches remaining) := by
  induction remaining with
  | zero => exact .pure .none
  | succ remaining ih =>
    unfold pollBatches
    refine Alike.next (.call (Op.poll .ZERO)) ?_
    rintro (error | events)
    · refine .bind (failOrClose_alike _) ?_
      intro step step' hstep
      exact .pure (.some hstep)
    · refine .ite Iff.rfl (fun _ => .pure .none) ?_
      intro _
      refine Alike.read ?_
      intro s s' hs
      refine .bind (handleEvents_alike (tags_alike hs.current events)) ?_
      rintro _ _ (_ | hstep)
      · refine .ite Iff.rfl ?_ fun _ => ih
        intro _
        exact Alike.next (modifyProgress_alike fun _ => rfl) fun _ => ih
      · exact .pure (.some hstep)

/-! ## Due actions -/

theorem recordDueCompletion_alike (completion : Option WorkerCommandProgress) :
    Alike (m := m) (r := r) σ σ' Eq (recordDueCompletion completion) (recordDueCompletion completion) := by
  unfold recordDueCompletion
  cases completion with
  | none => exact .pure rfl
  | some progress => exact Alike.next (recordCommandProgress_alike (.refl _)) fun _ => .pure rfl

theorem recordDueErrors_alike (errors : List WorkerOperationError) (terminal : Option WorkerCoreError) :
    Alike (m := m) (r := r) σ σ' Eq (recordDueErrors terminal errors) (recordDueErrors terminal errors) := by
  induction errors generalizing terminal with
  | nil => exact .pure rfl
  | cons error errors ih => exact Alike.next (pushOperationError_alike _) fun _ => ih _

/-- The end of a phase whose work may have failed for good. -/
theorem afterPhase_alike (terminal : Option WorkerCoreError) : Alike (m := m) (r := r) σ σ' SameExit
    (do
      match ← closeIfRequested with
      | some exit => return some exit
      | none =>
        match terminal with
        | some error => return some (← fail error)
        | none => return none)
    (do
      match ← closeIfRequested with
      | some exit => return some exit
      | none =>
        match terminal with
        | some error => return some (← fail error)
        | none => return none) := by
  refine .bind closeIfRequested_alike ?_
  rintro _ _ (_ | hstep)
  · cases terminal with
    | none => exact .pure .none
    | some error =>
      refine .bind (fail_alike error) ?_
      intro step step' hstep
      exact .pure (.some hstep)
  · exact .pure (.some hstep)

theorem duePhase_alike : Alike (m := m) (r := r) σ σ' SameExit duePhase duePhase := by
  unfold duePhase
  refine Alike.read ?_
  intro s s' hs
  rw [hs.lifecycle, hs.reporting]
  refine .ite Iff.rfl ?_ fun _ => .pure .none
  intro _
  refine Alike.next (.call Op.now) ?_
  intro now
  refine Alike.next (Reporting.runDue_alike now) ?_
  intro due
  refine Alike.next (modifyProgress_alike fun _ => rfl) ?_
  intro _
  refine Alike.next (recordDueCompletion_alike _) ?_
  intro terminal
  refine Alike.next (recordDueErrors_alike _ _) ?_
  intro terminal
  exact afterPhase_alike terminal

/-! ## After the command -/

theorem nextDeadline_alike {s s' : Frame m r} (hs : Resembles σ σ' s s') : s'.nextDeadline = s.nextDeadline := by
  obtain ⟨work, hwork, hwork'⟩ := hs.connection
  unfold WorkerCore.nextDeadline
  rw [hs.reporting, hwork, hwork']
  rcases work with _ | ⟨id, _ | handshake, gate⟩
  · rfl
  · rfl
  · rfl

theorem finishStep_alike : Alike (m := m) (r := r) σ σ' SameStep finishStep finishStep := by
  unfold finishStep
  refine Alike.read ?_
  intro s s' hs
  rw [nextDeadline_alike hs]
  refine Alike.next (modifyProgress_alike fun _ => rfl) ?_
  intro _
  exact Alike.endStep fun _ _ hsame => congrArg WorkerStep.continue hsame

theorem markImmediate_alike : Alike (m := m) (r := r) σ σ' Eq markImmediate markImmediate := by
  unfold markImmediate
  refine Alike.read ?_
  intro s s' hs
  have hcommands : s'.progress.commands = s.progress.commands := by
    have hsame := congrArg StepProgress.commands hs.progress
    exact hsame
  rw [hcommands, hs.pending, hs.reporting]
  exact .ite Iff.rfl (fun _ => modifyProgress_alike fun _ => rfl) fun _ => .pure rfl

/-- A phase after which the step goes on, unless it ends it. -/
theorem Alike.phase {x y : Worker m r (Option WorkerStep)} {f g : Option WorkerStep → Worker m r WorkerStep}
    (hx : Alike σ σ' SameExit x y) (hexit : ∀ step, f (some step) = pure step ∧ g (some step) = pure step)
    (hrest : Alike σ σ' SameStep (f none) (g none)) : Alike σ σ' SameStep (x >>= f) (y >>= g) := by
  refine .bind hx ?_
  rintro _ _ (_ | hstep)
  · exact hrest
  · rw [(hexit _).1, (hexit _).2]
    exact .pure hstep

theorem stepAfterCommand_alike : Alike (m := m) (r := r) σ σ' SameStep stepAfterCommand stepAfterCommand := by
  unfold stepAfterCommand
  refine Alike.next markImmediate_alike ?_
  intro _
  refine Alike.read ?_
  intro s s' hs
  rw [hs.budget]
  refine .phase (pollBatches_alike _) (fun _ => ⟨rfl, rfl⟩) ?_
  refine .phase drive_alike (fun _ => ⟨rfl, rfl⟩) ?_
  exact .phase duePhase_alike (fun _ => ⟨rfl, rfl⟩) finishStep_alike

end Swbt
