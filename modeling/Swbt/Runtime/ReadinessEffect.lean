import Swbt.Runtime.DueEffect
/-!
# What the handshake and the readiness gate can do

A handshake step waits, notices its completion or makes one bootstrap attempt.
An evaluation of the gate is pending, ready or failed, and may start the
automatic schedule on its way.
-/

set_option autoImplicit false

open Effects

namespace Swbt

variable {m : ControllerKind} {r : ReportingKind}

/-! ## Handshake steps -/

/-- The completion condition holds in a frame. -/
def Handshake.satisfied (handshake : Handshake) (s : Frame m r) : Bool :=
  handshake.completionCondition.isSatisfied s.observed s.sender.committed.session.protocolReady

/-- A running handshake whose topology is up and that has not seen its completion. -/
structure Handshake.Attempting (handshake : Handshake) (s : Frame m r) : Prop where
  running : handshake.bootstrapStopped = false
  topology : handshake.topologyReady = true
  unsatisfied : (handshake.bootstrapAccepted && handshake.satisfied s) = false

/-- The schedule that allows an attempt at `t`: a fresh one, or one that is due. -/
def Handshake.Scheduled (handshake : Handshake) (t : Duration) (skipped : UInt64) (scheduler : ReportScheduler) :
    Prop :=
  (handshake.retry = none ∧ ReportScheduler.start t bootstrapRetry = .ok scheduler) ∨
    ∃ before, handshake.retry = some before ∧ before.step t = .ok (.due skipped, scheduler)

inductive HandshakeEffect (handshake : Handshake) (t : Duration) (h : Log m r) (s : Frame m r) :
    Log m r → Frame m r → Except HandshakeError HandshakeProgress × Handshake → Prop
  | stopped (hstopped : handshake.bootstrapStopped = true) :
      HandshakeEffect handshake t h s h s (.ok .subcommandObserved, handshake)
  | waitingForTopology (hrunning : handshake.bootstrapStopped = false) (htopology : handshake.topologyReady = false) :
      HandshakeEffect handshake t h s h s (.ok .waitingForTopology, handshake)
  | observed (hrunning : handshake.bootstrapStopped = false) (htopology : handshake.topologyReady = true)
      (haccepted : handshake.bootstrapAccepted = true) (hsatisfied : handshake.satisfied s = true) :
      HandshakeEffect handshake t h s h s (.ok .subcommandObserved, handshake.stopBootstrap)
  | waiting {scheduler : ReportScheduler} (hattempting : handshake.Attempting s)
      (hretry : handshake.retry = some scheduler) (hlt : t < scheduler.nextDeadline) :
      HandshakeEffect handshake t h s h s (.ok (.waitingUntil scheduler.nextDeadline), handshake)
  | overflow {error : SchedulerError} (hattempting : handshake.Attempting s)
      (herror : handshake.retry = none ∧ ReportScheduler.start t bootstrapRetry = .error error ∨
        ∃ before, handshake.retry = some before ∧ before.step t = .error error) :
      HandshakeEffect handshake t h s h s (.error (.scheduler error), handshake)
  | attempted {skipped : UInt64} {scheduler : ReportScheduler} {h' : Log m r} {s' : Frame m r}
      {result : TransportResult Unit} (hattempting : handshake.Attempting s)
      (hscheduled : handshake.Scheduled t skipped scheduler)
      (hsent : InputSent .neutral (protocolTimestamp t) h s h' s' result) :
      HandshakeEffect handshake t h s h' s' (.ok (.bootstrapAttempted result skipped),
        { handshake with retry := some scheduler }.recordBootstrapAttempt s'.observed
          s'.sender.committed.session.protocolReady result)

theorem attempt_spec {handshake : Handshake} {t : Duration} {h : Log m r} {s : Frame m r} {skipped : UInt64}
    {scheduler : ReportScheduler} (hattempting : handshake.Attempting s)
    (hscheduled : handshake.Scheduled t skipped scheduler) :
    Act.wp (Handshake.attempt { handshake with retry := some scheduler } t skipped) h s
      (HandshakeEffect handshake t h s) := by
  unfold Handshake.attempt Handshake.sendBootstrap
  rw [Act.wp_bind]
  refine Act.wp_mono (sendInput_spec .neutral _ h s) ?_
  intro h' s' result hsent
  exact .attempted hattempting hscheduled hsent

theorem handshakeStep_spec (handshake : Handshake) (sessionId : ConnectionSessionId) (t : Duration) (h : Log m r)
    (s : Frame m r) (hid : sessionId = handshake.sessionId) :
    Act.wp (handshake.step sessionId t) h s (HandshakeEffect handshake t h s) := by
  unfold Handshake.step
  rw [Act.wp_bind, wp_frame]
  simp only [hid, ne_eq, not_true_eq_false, if_false]
  by_cases hstopped : handshake.bootstrapStopped = true
  · rw [if_pos hstopped]
    exact .stopped hstopped
  rw [if_neg hstopped]
  have hrunning : handshake.bootstrapStopped = false := by simpa using hstopped
  by_cases htopology : handshake.topologyReady = true
  · simp only [htopology, Bool.not_true, Bool.false_eq_true, if_false]
    split
    · rename_i hdone
      rw [Bool.and_eq_true] at hdone
      exact .observed hrunning htopology hdone.1 hdone.2
    · rename_i hdone
      have hattempting : handshake.Attempting s := ⟨hrunning, htopology, by simpa [Handshake.satisfied] using hdone⟩
      cases hretry : handshake.retry with
      | none =>
        dsimp only
        generalize hstart : ReportScheduler.start t bootstrapRetry = start
        cases start with
        | error error => exact .overflow hattempting (.inl ⟨hretry, hstart⟩)
        | ok scheduler => exact attempt_spec hattempting (.inl ⟨hretry, hstart⟩)
      | some scheduler =>
        dsimp only
        by_cases hlt : t < scheduler.nextDeadline
        · rw [if_pos hlt]
          exact .waiting hattempting hretry hlt
        rw [if_neg hlt]
        cases hstep : scheduler.step t with
        | error error => exact .overflow hattempting (.inr ⟨scheduler, hretry, hstep⟩)
        | ok stepped =>
          rcases stepped with ⟨_ | skipped, after⟩
          · rcases ReportScheduler.step_cases hstep with ⟨hearly, -, -⟩ | ⟨skipped, -, hdue, -⟩
            · exact absurd hearly hlt
            · cases hdue
          · exact attempt_spec hattempting (.inr ⟨scheduler, hretry, hstep⟩)
  · simp only [htopology, Bool.not_false, if_true]
    exact .waitingForTopology hrunning (by simpa using htopology)

/-! ## Evaluations -/

namespace Reporting

/-- The reporting state once the automatic schedule runs, where it may start. -/
def started (reporting : Reporting m r) (session : ProtocolSession) (t : Duration) :
    Except SchedulerError (Reporting m r) :=
  match reporting with
  | .periodic runtime =>
    if session.reportMode = some 0x30 then
      match runtime.policy.startWhenUnheld t with
      | .error error => .error error
      | .ok (_, policy) => .ok (.periodic { runtime with policy })
    else .ok (.periodic runtime)
  | .direct runtime => .ok (.direct runtime)

/-- The end of a reply holdoff still ahead of `t`. -/
def heldOff (reporting : Reporting m r) (t : Duration) : Option Duration := reporting.policy.bind (·.heldOff t)

end Reporting

/-- What an evaluation at `t` can be, the connection being active. -/
inductive Evaluated (gate : ReadinessGate) (t : Duration) (handshake : Option Handshake) (h : Log m r)
    (s : Frame m r) : Log m r → Frame m r → Evaluation → Prop
  | uncollected (hgate : gate.handshake = none) (hcompletion : handshake.bind Handshake.completion = none) :
      Evaluated gate t handshake h s h s ⟨.ok (.pending .handshake), gate, handshake⟩
  | mismatched {completion : HandshakeCompletion} (hgate : gate.handshake = none)
      (hcompletion : handshake.bind Handshake.completion = some completion)
      (hne : completion.sessionId ≠ gate.sessionId) :
      Evaluated gate t handshake h s h s
        ⟨.error (.handshakeSessionMismatch gate.sessionId completion.sessionId), gate, handshake⟩
  | overflow {gate' : ReadinessGate} {handshake' : Option Handshake} {error : SchedulerError}
      (hcollect : gate.collectHandshake handshake = .ok (true, gate', handshake'))
      (hstart : s.reporting.started s.sender.committed.session t = .error error) :
      Evaluated gate t handshake h s h s ⟨.error (.scheduler error), gate', handshake'⟩
  | unready {gate' : ReadinessGate} {handshake' : Option Handshake} {reporting : Reporting m r}
      (hcollect : gate.collectHandshake handshake = .ok (true, gate', handshake'))
      (hstart : s.reporting.started s.sender.committed.session t = .ok reporting)
      (hready : s.sender.committed.session.protocolReady = false) :
      Evaluated gate t handshake h s h { s with reporting } ⟨.ok (.pending .protocol), gate', handshake'⟩
  | heldOff {gate' : ReadinessGate} {handshake' : Option Handshake} {reporting : Reporting m r} {until_ : Duration}
      (hcollect : gate.collectHandshake handshake = .ok (true, gate', handshake'))
      (hstart : s.reporting.started s.sender.committed.session t = .ok reporting)
      (hready : s.sender.committed.session.protocolReady = true) (hheld : s.reporting.heldOff t = some until_) :
      Evaluated gate t handshake h s h { s with reporting }
        ⟨.ok (.pending (.periodicHoldoff until_)), gate', handshake'⟩
  | ready {gate' : ReadinessGate} {handshake' : Option Handshake} {reporting : Reporting m r}
      {completion : HandshakeCompletion}
      (hcollect : gate.collectHandshake handshake = .ok (true, gate', handshake'))
      (hgate : gate'.handshake = some completion)
      (hstart : s.reporting.started s.sender.committed.session t = .ok reporting)
      (hready : s.sender.committed.session.protocolReady = true) (hheld : s.reporting.heldOff t = none) :
      Evaluated gate t handshake h s h { s with reporting }
        ⟨.ok (.ready completion.sessionId), { gate' with handshake := none }, handshake'⟩

/-- The three outcomes of collecting a handshake. -/
theorem collectHandshake_cases (gate : ReadinessGate) (handshake : Option Handshake) :
    (gate.handshake = none ∧ handshake.bind Handshake.completion = none ∧
      gate.collectHandshake handshake = .ok (false, gate, handshake)) ∨
    (∃ completion, gate.handshake = none ∧ handshake.bind Handshake.completion = some completion ∧
      completion.sessionId ≠ gate.sessionId ∧ gate.collectHandshake handshake =
        .error (.handshakeSessionMismatch gate.sessionId completion.sessionId)) ∨
    (∃ gate' handshake' completion, gate'.handshake = some completion ∧ gate'.sessionId = gate.sessionId ∧
      gate.collectHandshake handshake = .ok (true, gate', handshake')) := by
  unfold ReadinessGate.collectHandshake
  cases hgate : gate.handshake with
  | some completion => exact .inr (.inr ⟨gate, handshake, completion, hgate, rfl, by simp⟩)
  | none =>
    cases hcompletion : handshake.bind Handshake.completion with
    | none => exact .inl ⟨rfl, rfl, by simp⟩
    | some completion =>
      by_cases hid : completion.sessionId = gate.sessionId
      · exact .inr (.inr ⟨{ gate with handshake := some completion }, none, completion, rfl, rfl, by simp [hid]⟩)
      · exact .inr (.inl ⟨completion, rfl, rfl, hid, by simp [hid]⟩)

theorem takeReadySession_spec {gate : ReadinessGate} {completion : HandshakeCompletion}
    (hgate : gate.handshake = some completion) (h : Log m r) (s : Frame m r)
    (Q : Log m r → Frame m r → ConnectionSessionId × ReadinessGate → Prop)
    (hQ : Q h s (completion.sessionId, { gate with handshake := none })) :
    Act.wp gate.takeReadySession h s Q := by
  unfold ReadinessGate.takeReadySession
  rw [hgate]
  exact hQ

theorem evaluateDirect_spec (gate : ReadinessGate) (t : Duration) (handshake : Option Handshake) (h : Log m .direct)
    (s : Frame m .direct) (hactive : gate.ensureActive t s.sessions = .ok ()) :
    Act.wp (gate.evaluateDirect t handshake) h s (Evaluated gate t handshake h s) := by
  have hstart : s.reporting.started s.sender.committed.session t = .ok s.reporting := by
    cases s.reporting
    rfl
  have hheld : s.reporting.heldOff t = none := by
    rw [Reporting.heldOff, Frame.policy_direct]
    rfl
  unfold ReadinessGate.evaluateDirect
  simp only [Act.wp_bind, wp_frame, hactive]
  rcases collectHandshake_cases gate handshake with ⟨hgate, hcompletion, hcollect⟩ |
    ⟨completion, hgate, hcompletion, hne, hcollect⟩ | ⟨gate', handshake', completion, hgate, -, hcollect⟩
  · rw [hcollect]
    exact .uncollected hgate hcompletion
  · rw [hcollect]
    exact .mismatched hgate hcompletion hne
  · simp only [hcollect]
    cases hready : s.sender.committed.session.protocolReady with
    | false => exact .unready hcollect hstart hready
    | true =>
      simp only [Bool.not_true, Bool.false_eq_true, if_false, Act.wp_bind]
      exact takeReadySession_spec hgate h s _ (.ready hcollect hgate hstart hready hheld)

theorem startReporting_spec (t : Duration) (h : Log m .periodic) (s : Frame m .periodic)
    (Q : Log m .periodic → Frame m .periodic → Except SchedulerError (Option PeriodicStart) → Prop)
    (hfailed : ∀ error, s.reporting.started s.sender.committed.session t = .error error → Q h s (.error error))
    (hstarted : ∀ reporting start, s.reporting.started s.sender.committed.session t = .ok reporting →
      (start = none → s.sender.committed.session.reportMode ≠ some 0x30) →
      (∀ until_, start = some (.heldOff until_) → s.reporting.heldOff t = some until_) →
      (∀ first, start = some (.started first) → s.reporting.heldOff t = none) →
      Q h { s with reporting } (.ok start)) :
    Act.wp (ReadinessGate.startReporting t) h s Q := by
  obtain ⟨⟨lifecycle, input, reporting, sender, protocol, observed, sessions, connection, pending, connected, budget⟩,
    progress⟩ := s
  cases reporting with
  | periodic runtime =>
    unfold ReadinessGate.startReporting
    simp only [Act.wp_bind, wp_frame, Frame.periodic]
    simp only [Reporting.started, Reporting.heldOff, Reporting.policy, Option.bind_some] at hfailed hstarted
    by_cases hmode : sender.committed.session.reportMode = some 0x30
    · simp only [hmode, if_true] at hfailed hstarted ⊢
      unfold PeriodicPolicy.startWhenUnheld at hfailed hstarted ⊢
      cases hheld : runtime.policy.heldOff t with
      | some until_ =>
        simp only [hheld] at hstarted ⊢
        exact hstarted _ _ rfl (by simp) (by simp) (by simp)
      | none =>
        simp only [hheld] at hstarted hfailed ⊢
        cases hscheduler : runtime.policy.scheduler with
        | some scheduler =>
          simp only [hscheduler] at hstarted ⊢
          exact hstarted _ _ rfl (by simp) (by simp) (by simp)
        | none =>
          simp only [hscheduler] at hstarted hfailed ⊢
          cases hstart : ReportScheduler.start t runtime.policy.period with
          | error error =>
            simp only [hstart] at hfailed ⊢
            exact hfailed error rfl
          | ok scheduler =>
            simp only [hstart] at hstarted ⊢
            exact hstarted _ _ rfl (by simp) (by simp) (by simp)
    · simp only [hmode, if_false] at hstarted ⊢
      exact hstarted _ _ rfl (fun _ => hmode) (by simp) (by simp)

theorem evaluatePeriodic_spec (gate : ReadinessGate) (t : Duration) (handshake : Option Handshake)
    (h : Log m .periodic) (s : Frame m .periodic) (hactive : gate.ensureActive t s.sessions = .ok ()) :
    Act.wp (gate.evaluatePeriodic t handshake) h s (Evaluated gate t handshake h s) := by
  unfold ReadinessGate.evaluatePeriodic
  simp only [Act.wp_bind, wp_frame, hactive]
  rcases collectHandshake_cases gate handshake with ⟨hgate, hcompletion, hcollect⟩ |
    ⟨completion, hgate, hcompletion, hne, hcollect⟩ | ⟨gate', handshake', completion, hgate, -, hcollect⟩
  · rw [hcollect]
    exact .uncollected hgate hcompletion
  · rw [hcollect]
    exact .mismatched hgate hcompletion hne
  · simp only [hcollect, Act.wp_bind]
    refine startReporting_spec t h s _ ?_ ?_
    · intro error hstart
      exact .overflow hcollect hstart
    · intro reporting start hstart hnone hheld hunheld
      dsimp only
      cases hready : s.sender.committed.session.protocolReady with
      | false => exact .unready hcollect hstart hready
      | true =>
        simp only [Bool.not_true, Bool.false_eq_true, if_false]
        split
        · rename_i until_
          exact .heldOff hcollect hstart hready (hheld until_ rfl)
        · rename_i first
          rw [Act.wp_bind]
          exact takeReadySession_spec hgate h _ _ (.ready hcollect hgate hstart hready (hunheld first rfl))
        · exact absurd (ProtocolSession.reportMode_of_protocolReady hready) (hnone rfl)

theorem evaluateReadiness_spec (gate : ReadinessGate) (t : Duration) (handshake : Option Handshake) (h : Log m r)
    (s : Frame m r) (hactive : gate.ensureActive t s.sessions = .ok ()) :
    Act.wp (Reporting.evaluateReadiness gate t handshake) h s (Evaluated gate t handshake h s) := by
  cases r with
  | periodic => exact evaluatePeriodic_spec gate t handshake h s hactive
  | direct => exact evaluateDirect_spec gate t handshake h s hactive

end Swbt
