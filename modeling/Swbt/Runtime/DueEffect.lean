import Swbt.Runtime.CommandEffect
/-!
# What falls due

A due time releases the pending tap or, in periodic mode, makes an automatic
attempt. A shutdown and a disconnect cancel the tap instead.
-/

set_option autoImplicit false

open Effects

namespace Swbt

variable {m : ControllerKind} {r : ReportingKind}

def Frame.setPolicy (s : Frame m r) (policy : PeriodicPolicy) : Frame m r :=
  { s with reporting := s.reporting.withPolicy policy }

theorem Reporting.policy_withPolicy {reporting : Reporting m r} {before : PeriodicPolicy}
    (hpolicy : reporting.policy = some before) (policy : PeriodicPolicy) :
    (reporting.withPolicy policy).policy = some policy := by
  cases reporting with
  | periodic runtime => rfl
  | direct runtime => cases hpolicy

theorem Frame.withPolicy_eq (s : Frame m .periodic) (policy : PeriodicPolicy) :
    s.withPolicy policy = s.setPolicy policy := by
  obtain ⟨core, progress⟩ := s
  obtain ⟨lifecycle, input, reporting, rest⟩ := core
  cases reporting
  rfl

theorem Frame.policy_eq (s : Frame m .periodic) : s.reporting.policy = some s.periodic.policy := by
  obtain ⟨core, progress⟩ := s
  obtain ⟨lifecycle, input, reporting, rest⟩ := core
  cases reporting
  rfl

theorem Frame.periodicTap_eq (s : Frame m .periodic) : s.reporting.tap = s.periodic.pendingTap.map fun pending =>
    ⟨pending.tap.released, pending.releaseAt, pending.tap.firstError⟩ := by
  obtain ⟨core, progress⟩ := s
  obtain ⟨lifecycle, input, reporting, rest⟩ := core
  cases reporting
  rfl

theorem Frame.directTap_eq (s : Frame m .direct) : s.reporting.tap = s.direct.pendingTap.map fun pending =>
    ⟨pending.released, pending.releaseAt, none⟩ := by
  obtain ⟨core, progress⟩ := s
  obtain ⟨lifecycle, input, reporting, rest⟩ := core
  cases reporting
  rfl

theorem Frame.policy_direct (s : Frame m .direct) : s.reporting.policy = none := by
  obtain ⟨core, progress⟩ := s
  obtain ⟨lifecycle, input, reporting, rest⟩ := core
  cases reporting
  rfl

/-! ## The pending tap -/

/-- What a release reports, after the first error of its press. -/
def releaseError (firstError : Option TransportError) : TransportResult Unit → Except PeriodicError Unit
  | .ok () => match firstError with
    | none => .ok ()
    | some error => .error (.transport error none)
  | .error release => match firstError with
    | none => .error (.transport release none)
    | some error => .error (.transport error (if release.kind ≠ .sendRejected then some release else none))

def periodicOutcome : Except PeriodicError Unit → CommandResult
  | .ok () => .ok ()
  | .error error => .error (.periodic error)

def directOutcome : TransportResult Unit → CommandResult
  | .ok () => .ok ()
  | .error error => .error (.direct (.transport error))

/-- The release of a tap taken out of the frame. -/
inductive Released (tap : Tap m) (t : Duration) (h : Log m r) (s : Frame m r) :
    Log m r → Frame m r → CommandResult → Prop
  | periodic {h' : Log m r} {s' : Frame m r} {result : TransportResult Unit} (hr : r = .periodic)
      (hsent : PeriodicSent tap.released (protocolTimestamp t) h s h' s' result) :
      Released tap t h s h' s' (periodicOutcome (releaseError tap.firstError result))
  | direct {h' : Log m r} {s' : Frame m r} {result : TransportResult Unit} (hr : r = .direct)
      (hsent : DirectSent tap.released (protocolTimestamp t) h s h' s' result) :
      Released tap t h s h' s' (directOutcome result)

theorem finishPeriodic_spec (tap : PendingPeriodicTap m) (releaseAt t : Duration) (h : Log m .periodic)
    (s : Frame m .periodic) :
    Act.wp (Periodic.finish tap (protocolTimestamp t)) h s fun h' s' result =>
      Released ⟨tap.released, releaseAt, tap.firstError⟩ t h s h' s' (periodicOutcome result) := by
  unfold Periodic.finish
  rw [Act.wp_bind]
  refine Act.wp_mono (commitAndSend_spec tap.released _ h s) ?_
  intro h' s' result hsent
  have hall := @Released.periodic _ _ ⟨tap.released, releaseAt, tap.firstError⟩ _ _ _ _ _ _ rfl hsent
  cases result with
  | error error =>
    cases hfirst : tap.firstError with
    | none => simpa [hfirst, releaseError] using hall
    | some first => simpa [hfirst, releaseError] using hall
  | ok accepted =>
    cases hfirst : tap.firstError with
    | none => simpa [hfirst, releaseError] using hall
    | some first => simpa [hfirst, releaseError] using hall

theorem finishDirect_spec (tap : PendingDirectTap m) (t : Duration) (h : Log m .direct) (s : Frame m .direct) :
    Act.wp (Direct.finish tap t) h s fun h' s' result =>
      ∃ answer, result = (match answer with | .ok () => .ok () | .error error => .error (.transport error)) ∧
        DirectSent tap.released (protocolTimestamp t) h s h' s' answer := by
  unfold Direct.finish
  rw [Act.wp_bind]
  refine Act.wp_mono (sendDirect_spec tap.released _ h s) ?_
  rintro h' s' (error | ⟨⟩) hsent
  · exact ⟨_, rfl, hsent⟩
  · exact ⟨_, rfl, hsent⟩

/-- The error of a tap cancelled by a shutdown. -/
def cancelError : ReportingKind → WorkerCommandError
  | .periodic => .shutdown
  | .direct => .direct (.interrupted .shutdown)

theorem Frame.setTap_none (s : Frame m r) (h : s.reporting.tap = none) : s.setTap none = s := by
  obtain ⟨core, progress⟩ := s
  obtain ⟨lifecycle, input, reporting, rest⟩ := core
  cases reporting with
  | periodic runtime =>
    obtain ⟨policy, pendingTap⟩ := runtime
    simp only [Reporting.tap, Option.map_eq_none_iff] at h
    subst h
    rfl
  | direct runtime =>
    obtain ⟨pendingTap⟩ := runtime
    simp only [Reporting.tap, Option.map_eq_none_iff] at h
    subst h
    rfl

theorem cancelForShutdown_spec (h : Log m r) (s : Frame m r)
    (Q : Log m r → Frame m r → Option WorkerCommandError → Prop)
    (hQ : Q h (s.setTap none) (s.reporting.tap.map fun _ => cancelError r)) :
    Act.wp Reporting.cancelForShutdown h s Q := by
  cases r with
  | periodic =>
    change Act.wp Periodic.cancelForShutdown h s Q
    unfold Periodic.cancelForShutdown
    simp only [Act.wp_bind, wp_frame, wp_update, Act.wp_pure, Frame.withPeriodic_noTap]
    rw [Frame.periodicTap_eq, Option.map_map] at hQ
    exact hQ
  | direct =>
    change Act.wp Direct.cancelForShutdown h s Q
    unfold Direct.cancelForShutdown
    rw [Frame.directTap_eq] at hQ
    simp only [Act.wp_bind, wp_frame]
    cases htap : s.direct.pendingTap with
    | none =>
      rw [Frame.setTap_none s (by rw [Frame.directTap_eq, htap]; rfl), htap] at hQ
      exact hQ
    | some tap =>
      rw [htap] at hQ
      simp only [Act.wp_bind, wp_update, Frame.withDirect_noTap]
      exact hQ

/-! ## Due actions -/

/-- An automatic report is not due: it is held off or its slot has not come. -/
def PeriodicPolicy.NotDue (policy : PeriodicPolicy) (t : Duration) : Prop :=
  ∃ scheduler, policy.scheduler = some scheduler ∧ ((policy.heldOff t).isSome ∨ t < scheduler.nextDeadline)

/-- An automatic attempt at `t` moves the schedule to `scheduler`. -/
structure Ticks (policy : PeriodicPolicy) (t : Duration) (skipped : UInt64) (scheduler : ReportScheduler) : Prop where
  unheld : policy.heldOff t = none
  step : ∃ before, policy.scheduler = some before ∧ before.step t = .ok (.due skipped, scheduler)

inductive DueEffect (t : Duration) (h : Log m r) (s : Frame m r) : Log m r → Frame m r → ReportingDue → Prop
  | quiet (htap : ∀ tap, s.reporting.tap = some tap → t < tap.releaseAt)
      (hpolicy : ∀ policy, s.reporting.policy = some policy → policy.NotDue t) : DueEffect t h s h s .none
  | failed {policy : PeriodicPolicy} {error : PeriodicError} (hpolicy : s.reporting.policy = some policy)
      (herror : error = .notReady ∧ policy.scheduler = none ∨ ∃ e, error = .scheduler e) :
      DueEffect t h s h s ⟨1, false, none, [.periodic error]⟩
  | backpressured {policy : PeriodicPolicy} {skipped : UInt64} {scheduler : ReportScheduler}
      (htap : ∀ tap, s.reporting.tap = some tap → t < tap.releaseAt)
      (hpolicy : s.reporting.policy = some policy) (hticks : Ticks policy t skipped scheduler) :
      DueEffect t h s
        (.call (s.setPolicy { policy with scheduler := some scheduler }) Op.interruptSendCapacityAvailable false :: h)
        (s.setPolicy { policy with scheduler := some scheduler }) .none
  | automatic {policy : PeriodicPolicy} {skipped : UInt64} {scheduler : ReportScheduler} {h' : Log m r}
      {s' : Frame m r} {result : TransportResult Unit} {errors : List WorkerOperationError}
      (hpolicy : s.reporting.policy = some policy) (hticks : Ticks policy t skipped scheduler)
      (hsent : InputSent s.input (protocolTimestamp t)
        (.call (s.setPolicy { policy with scheduler := some scheduler }) Op.interruptSendCapacityAvailable true :: h)
        (s.setPolicy { policy with scheduler := some scheduler }) h' s' result)
      (herrors : errors = match result with
        | .ok () => []
        | .error error => [.periodic (.transport error none)]) :
      DueEffect t h s h' s' ⟨1, false, none, errors⟩
  | released {tap : Tap m} {h' : Log m r} {s' : Frame m r} {result : CommandResult}
      (htap : s.reporting.tap = some tap) (hdue : tap.releaseAt ≤ t)
      (hreleased : Released tap t h (s.setTap none) h' s' result) :
      DueEffect t h s h' s' ⟨1, true, some (.complete result), []⟩

theorem runAutomatic_spec (t : Duration) (h : Log m .periodic) (s : Frame m .periodic)
    (htap : ∀ tap, s.reporting.tap = some tap → t < tap.releaseAt) :
    Act.wp (Periodic.runAutomatic t) h s (DueEffect t h s) := by
  have hpolicy := s.policy_eq
  unfold Periodic.runAutomatic PeriodicPolicy.sendDue
  simp only [Act.wp_bind, wp_frame]
  split
  · rename_i hnone
    exact .failed hpolicy (.inl ⟨rfl, hnone⟩)
  · rename_i scheduler hscheduler
    split
    · rename_i until_ hheld
      refine .quiet htap ?_
      intro policy hp
      rw [hpolicy] at hp
      cases hp
      exact ⟨scheduler, hscheduler, .inl (by rw [hheld]; rfl)⟩
    · rename_i hunheld
      have hunheld : s.periodic.policy.heldOff t = none := by
        cases hcase : s.periodic.policy.heldOff t with
        | none => rfl
        | some until_ => exact absurd hcase (hunheld until_)
      split
      · exact .failed hpolicy (.inr ⟨_, rfl⟩)
      · rename_i after hstep
        refine .quiet htap ?_
        intro policy hp
        rw [hpolicy] at hp
        cases hp
        rcases ReportScheduler.step_cases hstep with ⟨hlt, -, -⟩ | ⟨skipped, -, hdue, -⟩
        · exact ⟨scheduler, hscheduler, .inr hlt⟩
        · cases hdue
      · rename_i skipped after hstep
        have hticks : Ticks s.periodic.policy t skipped after := ⟨hunheld, scheduler, hscheduler, hstep⟩
        simp only [Act.wp_bind, wp_update, Frame.withPolicy_eq, wp_interruptSendCapacityAvailable]
        intro available
        cases available with
        | false => exact .backpressured htap hpolicy hticks
        | true =>
          simp only [Bool.not_true, Bool.false_eq_true, if_false, Act.wp_bind, wp_snapshot]
          refine Act.wp_mono (sendInput_spec _ _ _ _) ?_
          rintro h' s' (error | ⟨⟩) hsent
          · exact .automatic hpolicy hticks hsent rfl
          · exact .automatic hpolicy hticks hsent rfl

theorem periodicDue_spec (t : Duration) (h : Log m .periodic) (s : Frame m .periodic) :
    Act.wp (Periodic.runDue t) h s (DueEffect t h s) := by
  unfold Periodic.runDue
  rw [Act.wp_bind, wp_frame]
  dsimp only
  cases hpending : s.periodic.pendingTap with
  | none =>
    refine runAutomatic_spec t h s ?_
    intro tap hsome
    rw [Frame.periodicTap_eq, hpending] at hsome
    cases hsome
  | some pending =>
    have htap : s.reporting.tap = some ⟨pending.tap.released, pending.releaseAt, pending.tap.firstError⟩ := by
      rw [Frame.periodicTap_eq, hpending]
      rfl
    rw [Option.any_some]
    split
    · rename_i hdue
      unfold Periodic.runRelease
      simp only [Act.wp_bind, wp_update, Frame.withPeriodic_noTap]
      refine Act.wp_mono (finishPeriodic_spec pending.tap pending.releaseAt t h (s.setTap none)) ?_
      rintro h' s' (error | ⟨⟩) hreleased
      · exact .released htap (of_decide_eq_true hdue) hreleased
      · exact .released htap (of_decide_eq_true hdue) hreleased
    · rename_i hdue
      refine runAutomatic_spec t h s ?_
      intro tap hsome
      rw [htap] at hsome
      cases hsome
      rw [decide_eq_true_eq] at hdue
      exact not_le.1 hdue

theorem directDue_spec (t : Duration) (h : Log m .direct) (s : Frame m .direct) :
    Act.wp (Direct.runDue t) h s (DueEffect t h s) := by
  have hpolicy : ∀ policy, s.reporting.policy = some policy → policy.NotDue t := by
    intro policy hp
    rw [Frame.policy_direct] at hp
    cases hp
  unfold Direct.runDue
  rw [Act.wp_bind, wp_frame]
  split
  · rename_i hnone
    refine .quiet ?_ hpolicy
    intro tap hsome
    rw [Frame.directTap_eq, hnone] at hsome
    cases hsome
  · rename_i tap hpending
    have htap : s.reporting.tap = some ⟨tap.released, tap.releaseAt, none⟩ := by
      rw [Frame.directTap_eq, hpending]
      rfl
    split
    · rename_i hlt
      refine .quiet ?_ hpolicy
      intro tap' hsome
      rw [htap] at hsome
      cases hsome
      exact hlt
    · rename_i hdue
      simp only [Act.wp_bind, wp_update, Frame.withDirect_noTap]
      refine Act.wp_mono (finishDirect_spec tap t h (s.setTap none)) ?_
      rintro h' s' result ⟨answer, rfl, hsent⟩
      have hreleased := @Released.direct _ _ ⟨tap.released, tap.releaseAt, none⟩ _ _ _ _ _ _ rfl hsent
      cases answer with
      | error error => exact .released htap (not_lt.1 hdue) hreleased
      | ok accepted => exact .released htap (not_lt.1 hdue) hreleased

theorem runDue_spec (t : Duration) (h : Log m r) (s : Frame m r) :
    Act.wp (Reporting.runDue t) h s (DueEffect t h s) := by
  cases r with
  | periodic => exact periodicDue_spec t h s
  | direct => exact directDue_spec t h s

end Swbt
