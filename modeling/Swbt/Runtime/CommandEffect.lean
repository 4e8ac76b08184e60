import Swbt.Runtime.SendEffect
/-!
# What an input command can do

A command is rejected before it does anything, commits a state (periodic),
sends one and commits it on acceptance (direct), or presses a tap and leaves
it pending.
-/

set_option autoImplicit false

open Effects

namespace Swbt

variable {m : ControllerKind} {r : ReportingKind}

/-! ## Reporting state as policy and tap -/

/-- A pending tap of either mode. -/
structure Tap (m : ControllerKind) where
  released : InputState m
  releaseAt : Duration
  firstError : Option TransportError

namespace Reporting

def tap : Reporting m r → Option (Tap m)
  | .periodic runtime => runtime.pendingTap.map fun pending =>
    ⟨pending.tap.released, pending.releaseAt, pending.tap.firstError⟩
  | .direct runtime => runtime.pendingTap.map fun pending => ⟨pending.released, pending.releaseAt, none⟩

def withTap (tap : Option (Tap m)) : Reporting m r → Reporting m r
  | .periodic runtime =>
    .periodic { runtime with pendingTap := tap.map fun t => ⟨⟨t.released, t.firstError⟩, t.releaseAt⟩ }
  | .direct _ => .direct ⟨tap.map fun t => ⟨t.released, t.releaseAt⟩⟩

/-- The policy of periodic reporting. -/
def policy : Reporting m r → Option PeriodicPolicy
  | .periodic runtime => some runtime.policy
  | .direct _ => none

def withPolicy (policy : PeriodicPolicy) : Reporting m r → Reporting m r
  | .periodic runtime => .periodic { runtime with policy }
  | .direct runtime => .direct runtime

theorem hasPending_eq (reporting : Reporting m r) : reporting.hasPending = reporting.tap.isSome := by
  cases reporting <;> simp [hasPending, tap]

@[simp] theorem policy_withTap (tap : Option (Tap m)) (reporting : Reporting m r) :
    (reporting.withTap tap).policy = reporting.policy := by
  cases reporting <;> rfl

@[simp] theorem hasPending_withTap (tap : Option (Tap m)) (reporting : Reporting m r) :
    (reporting.withTap tap).hasPending = tap.isSome := by
  cases reporting <;> simp [hasPending, withTap]

@[simp] theorem tap_withPolicy (policy : PeriodicPolicy) (reporting : Reporting m r) :
    (reporting.withPolicy policy).tap = reporting.tap := by
  cases reporting <;> rfl

@[simp] theorem hasPending_withPolicy (policy : PeriodicPolicy) (reporting : Reporting m r) :
    (reporting.withPolicy policy).hasPending = reporting.hasPending := by
  cases reporting <;> rfl

@[simp] theorem hasPending_stopSession (reporting : Reporting m r) : reporting.stopSession.hasPending = false := by
  cases reporting <;> rfl

@[simp] theorem stopSession_stopSession (reporting : Reporting m r) :
    reporting.stopSession.stopSession = reporting.stopSession := by
  cases reporting <;> rfl

@[simp] theorem stopSession_withTap (tap : Option (Tap m)) (reporting : Reporting m r) :
    (reporting.withTap tap).stopSession = reporting.stopSession := by
  cases reporting <;> rfl

end Reporting

def Frame.setTap (s : Frame m r) (tap : Option (Tap m)) : Frame m r :=
  { s with reporting := s.reporting.withTap tap }

theorem Frame.withPeriodic_pendingTap (s : Frame m .periodic) (pending : ScheduledPeriodicTap m) :
    s.withPeriodic { s.periodic with pendingTap := some pending } =
      s.setTap (some ⟨pending.tap.released, pending.releaseAt, pending.tap.firstError⟩) := by
  obtain ⟨core, progress⟩ := s
  obtain ⟨lifecycle, input, reporting, rest⟩ := core
  cases reporting
  rfl

theorem Frame.withPeriodic_noTap (s : Frame m .periodic) :
    s.withPeriodic { s.periodic with pendingTap := none } = s.setTap none := by
  obtain ⟨core, progress⟩ := s
  obtain ⟨lifecycle, input, reporting, rest⟩ := core
  cases reporting
  rfl

theorem Frame.withDirect_pendingTap (s : Frame m .direct) (pending : PendingDirectTap m) :
    s.withDirect { s.direct with pendingTap := some pending } =
      s.setTap (some ⟨pending.released, pending.releaseAt, none⟩) := by
  obtain ⟨core, progress⟩ := s
  obtain ⟨lifecycle, input, reporting, rest⟩ := core
  cases reporting
  rfl

theorem Frame.withDirect_noTap (s : Frame m .direct) :
    s.withDirect { s.direct with pendingTap := none } = s.setTap none := by
  obtain ⟨core, progress⟩ := s
  obtain ⟨lifecycle, input, reporting, rest⟩ := core
  cases reporting
  rfl

/-! ## Direct sends -/

/-- A direct send is accepted and its state committed, or refused. -/
inductive DirectSent (candidate : InputState m) (nowNs : UInt64) (h : Log m r) (s : Frame m r) :
    Log m r → Frame m r → TransportResult Unit → Prop
  | accepted {h' : Log m r} {s' : Frame m r} (hsent : InputSent candidate nowNs h s h' s' (.ok ())) :
      DirectSent candidate nowNs h s (.emit (s'.commit candidate) (.status (.setSnapshot candidate)) :: h')
        (s'.commit candidate) (.ok ())
  | refused {h' : Log m r} {s' : Frame m r} {error : TransportError}
      (hsent : InputSent candidate nowNs h s h' s' (.error error)) :
      DirectSent candidate nowNs h s h' s' (.error error)

theorem sendDirect_spec (candidate : InputState m) (nowNs : UInt64) (h : Log m .direct) (s : Frame m .direct) :
    Act.wp (Direct.sendCandidate candidate nowNs) h s (DirectSent candidate nowNs h s) := by
  unfold Direct.sendCandidate
  rw [Act.wp_bind]
  refine Act.wp_mono (sendInput_spec candidate nowNs h s) ?_
  rintro h' s' (error | ⟨⟩) hsent
  · exact .refused hsent
  · exact .accepted hsent

/-- A periodic send follows the commit of its state. -/
def PeriodicSent (candidate : InputState m) (nowNs : UInt64) (h : Log m r) (s : Frame m r) :
    Log m r → Frame m r → TransportResult Unit → Prop :=
  InputSent candidate nowNs (.emit (s.commit candidate) (.status (.setSnapshot candidate)) :: h) (s.commit candidate)

theorem commitAndSend_spec (candidate : InputState m) (nowNs : UInt64) (h : Log m .periodic)
    (s : Frame m .periodic) :
    Act.wp (Periodic.commitAndSendCandidate candidate nowNs) h s (PeriodicSent candidate nowNs h s) := by
  unfold Periodic.commitAndSendCandidate
  rw [Act.wp_bind, wp_commit, Act.wp_bind, wp_snapshot]
  exact sendInput_spec candidate nowNs _ _

/-! ## Input commands -/

/-- Errors of a command that has done nothing. -/
def WorkerCommandError.Rejection : WorkerCommandError → Prop
  | .input _ | .periodic .notReady | .direct .notReady => True
  | _ => False

/-- The plan of a tap command with valid arguments. -/
def ReportingCommand.tapPlan (current : InputState m) : ReportingCommand m r → Option (TapPlan m)
  | .periodic (.common (.tap buttons duration)) | .direct (.common (.tap buttons duration)) =>
    (Swbt.tapPlan current buttons duration).toOption
  | _ => none

/-- An input command at `t`. -/
inductive InputEffect (command : ReportingCommand m r) (t : Duration) (h : Log m r) (s : Frame m r) :
    Log m r → Frame m r → WorkerCommandProgress → Prop
  | rejected {error : WorkerCommandError} (herror : error.Rejection)
      (hplan : s.lifecycle.state = .ready → command.tapPlan s.input = none) :
      InputEffect command t h s h s (.complete (.error error))
  | committed (hr : r = .periodic) (candidate : InputState m) (hplan : command.tapPlan s.input = none) :
      InputEffect command t h s (.emit (s.commit candidate) (.status (.setSnapshot candidate)) :: h)
        (s.commit candidate) (.complete (.ok ()))
  | sent {candidate : InputState m} {h' : Log m r} {s' : Frame m r} (hr : r = .direct)
      (hready : s.lifecycle.state = .ready) (hsent : DirectSent candidate (protocolTimestamp t) h s h' s' (.ok ()))
      (hplan : command.tapPlan s.input = none) : InputEffect command t h s h' s' (.complete (.ok ()))
  | unsent {candidate : InputState m} {h' : Log m r} {s' : Frame m r} {error : TransportError} (hr : r = .direct)
      (hready : s.lifecycle.state = .ready)
      (hsent : DirectSent candidate (protocolTimestamp t) h s h' s' (.error error))
      (hplan : ∀ plan, command.tapPlan s.input = some plan → candidate = plan.pressed) :
      InputEffect command t h s h' s' (.complete (.error (.direct (.transport error))))
  | pressedDirect {plan : TapPlan m} {h' : Log m r} {s' : Frame m r} (hr : r = .direct)
      (hready : s.lifecycle.state = .ready)
      (hsent : DirectSent plan.pressed (protocolTimestamp t) h s h' s' (.ok ()))
      (hplan : command.tapPlan s.input = some plan) :
      InputEffect command t h s h' (s'.setTap (some ⟨plan.released, deadlineAfter t plan.duration, none⟩)) .pending
  | pressedPeriodic {plan : TapPlan m} {h' : Log m r} {s' : Frame m r} {result : TransportResult Unit}
      {firstError : Option TransportError} (hr : r = .periodic) (hready : s.lifecycle.state = .ready)
      (hsent : PeriodicSent plan.pressed (protocolTimestamp t) h s h' s' result)
      (hresult : (result = .ok () ∧ firstError = none) ∨
        ∃ error, result = .error error ∧ error.kind = .sendRejected ∧ firstError = some error)
      (hplan : command.tapPlan s.input = some plan) :
      InputEffect command t h s h' (s'.setTap (some ⟨plan.released, deadlineAfter t plan.duration, firstError⟩))
        .pending
  | unpressed {plan : TapPlan m} {h' : Log m r} {s' : Frame m r} {error : TransportError} (hr : r = .periodic)
      (hready : s.lifecycle.state = .ready)
      (hsent : PeriodicSent plan.pressed (protocolTimestamp t) h s h' s' (.error error))
      (hkind : error.kind ≠ .sendRejected) (hplan : command.tapPlan s.input = some plan) :
      InputEffect command t h s h' s' (.complete (.error (.periodic (.transport error none))))

theorem completeInputCandidate_spec {command : PeriodicCommand m} (candidate : Except Error (InputState m))
    (t : Duration) (h : Log m .periodic) (s : Frame m .periodic)
    (hplan : (ReportingCommand.periodic command).tapPlan s.input = none) :
    Act.wp (completeInputCandidate candidate) h s (InputEffect (.periodic command) t h s) := by
  cases candidate with
  | error error => exact .rejected trivial fun _ => hplan
  | ok candidate => exact .committed rfl candidate hplan

/-- A tap with invalid arguments has no plan. -/
theorem toOption_error {current : InputState m} {buttons : List (Button m)} {duration : Duration} {error : Error}
    (hplan : tapPlan current buttons duration = .error error) : (tapPlan current buttons duration).toOption = none := by
  rw [hplan]
  rfl

theorem toOption_ok {current : InputState m} {buttons : List (Button m)} {duration : Duration} {plan : TapPlan m}
    (hplan : tapPlan current buttons duration = .ok plan) :
    (tapPlan current buttons duration).toOption = some plan := by
  rw [hplan]
  rfl

theorem periodicCommand_spec (command : PeriodicCommand m) (t : Duration) (h : Log m .periodic)
    (s : Frame m .periodic) :
    Act.wp (Periodic.handleCommand command (s.lifecycle.state = .ready) t) h s
      (InputEffect (.periodic command) t h s) := by
  unfold Periodic.handleCommand
  split
  · exact .committed rfl _ rfl
  · rw [Act.wp_bind, wp_snapshot]
    exact completeInputCandidate_spec _ t h s rfl
  · rw [Act.wp_bind, wp_snapshot]
    exact completeInputCandidate_spec _ t h s rfl
  · exact .committed rfl _ rfl
  · rw [Act.wp_bind, wp_snapshot]
    split
    · rename_i hplan
      exact .rejected trivial fun _ => toOption_error hplan
    · rename_i plan hplan
      have hplan := toOption_ok hplan
      rw [Act.wp_bind]
      unfold Periodic.beginTap
      by_cases hready : s.lifecycle.state = .ready
      · simp only [hready, decide_true, Bool.not_true, Bool.false_eq_true, if_false, Act.wp_bind]
        refine Act.wp_mono (commitAndSend_spec plan.pressed _ h s) ?_
        rintro h' s' (error | ⟨⟩) hsent
        · dsimp only
          split
          · rename_i hkind
            exact .unpressed rfl hready hsent hkind hplan
          · rename_i hkind
            change InputEffect _ t h s h' (s'.withPeriodic { s'.periodic with pendingTap := some _ }) .pending
            rw [Frame.withPeriodic_pendingTap]
            exact .pressedPeriodic rfl hready hsent (.inr ⟨error, rfl, not_not.1 hkind, rfl⟩) hplan
        · change InputEffect _ t h s h' (s'.withPeriodic { s'.periodic with pendingTap := some _ }) .pending
          rw [Frame.withPeriodic_pendingTap]
          exact .pressedPeriodic rfl hready hsent (.inl ⟨rfl, rfl⟩) hplan
      · simp only [hready, decide_false, Bool.not_false, if_true]
        exact .rejected trivial fun h => absurd h hready

theorem completeSend_spec {command : DirectCommand m} (candidate : InputState m) (t : Duration) (h : Log m .direct)
    (s : Frame m .direct) (hready : s.lifecycle.state = .ready)
    (hplan : (ReportingCommand.direct command).tapPlan s.input = none) :
    Act.wp (Direct.completeSend candidate true t) h s (InputEffect (.direct command) t h s) := by
  unfold Direct.completeSend
  simp only [Bool.not_true, Bool.false_eq_true, if_false, Act.wp_bind]
  refine Act.wp_mono (sendDirect_spec candidate _ h s) ?_
  rintro h' s' (error | ⟨⟩) hsent
  · refine .unsent rfl hready hsent ?_
    intro plan hsome
    rw [hplan] at hsome
    cases hsome
  · exact .sent rfl hready hsent hplan

theorem completeCandidate_spec {command : DirectCommand m} (candidate : Except Error (InputState m)) (t : Duration)
    (h : Log m .direct) (s : Frame m .direct) (hready : s.lifecycle.state = .ready)
    (hplan : (ReportingCommand.direct command).tapPlan s.input = none) :
    Act.wp (Direct.completeCandidate candidate true t) h s (InputEffect (.direct command) t h s) := by
  cases candidate with
  | error error => exact .rejected trivial fun _ => hplan
  | ok candidate => exact completeSend_spec candidate t h s hready hplan

theorem directCommand_spec (command : DirectCommand m) (t : Duration) (h : Log m .direct) (s : Frame m .direct) :
    Act.wp (Direct.handleCommand command (s.lifecycle.state = .ready) t) h s (InputEffect (.direct command) t h s) := by
  unfold Direct.handleCommand
  by_cases hready : s.lifecycle.state = .ready
  · simp only [hready, decide_true, Bool.not_true, Bool.false_eq_true, if_false]
    split
    · exact completeSend_spec _ t h s hready rfl
    · rw [Act.wp_bind, wp_snapshot]
      exact completeCandidate_spec _ t h s hready rfl
    · rw [Act.wp_bind, wp_snapshot]
      exact completeCandidate_spec _ t h s hready rfl
    · exact completeSend_spec _ t h s hready rfl
    · rw [Act.wp_bind, wp_snapshot]
      split
      · rename_i hplan
        exact .rejected trivial fun _ => toOption_error hplan
      · rename_i plan hplan
        have hplan := toOption_ok hplan
        rw [Act.wp_bind]
        unfold Direct.beginTap
        simp only [Bool.not_true, Bool.false_eq_true, if_false, Act.wp_bind]
        refine Act.wp_mono (sendDirect_spec plan.pressed _ h s) ?_
        rintro h' s' (error | ⟨⟩) hsent
        · refine .unsent rfl hready hsent ?_
          intro plan' hsome
          cases hplan.symm.trans hsome
          rfl
        · change InputEffect _ t h s h' (s'.withDirect { s'.direct with pendingTap := some _ }) .pending
          rw [Frame.withDirect_pendingTap]
          exact .pressedDirect rfl hready hsent hplan
  · simp only [hready, decide_false, Bool.not_false, if_true]
    exact .rejected trivial fun h => absurd h hready

theorem handleCommand_spec (command : ReportingCommand m r) (t : Duration) (h : Log m r) (s : Frame m r) :
    Act.wp (Reporting.handleCommand command (s.lifecycle.state = .ready) t) h s (InputEffect command t h s) := by
  cases command with
  | periodic command => exact periodicCommand_spec command t h s
  | direct command => exact directCommand_spec command t h s

end Swbt
