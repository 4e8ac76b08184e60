import Swbt.Core.Clock
/-!
# The absolute-phase report scheduler

Deadlines lie a whole number of periods after the start. A step that comes
late counts the slots it missed and moves to the next slot after now.
-/

set_option autoImplicit false

namespace Swbt

inductive TickDecision
  | notDue
  | due (skipped : UInt64)
deriving DecidableEq

inductive SchedulerError
  | zeroPeriod | deadlineOverflow
deriving DecidableEq

structure ReportScheduler where
  period : Duration
  nextDeadline : Duration
  period_pos : 0 < period.asNanos
deriving DecidableEq

/-- A `u128` of nanoseconds as a duration, whose seconds must fit a `u64`. -/
def durationFromTotalNanos (totalNanos : Nat) : Except SchedulerError Duration :=
  if h : totalNanos ≤ maxNanos then .ok ⟨totalNanos, h⟩ else .error .deadlineOverflow

namespace ReportScheduler

def start (startedAt period : Duration) : Except SchedulerError ReportScheduler :=
  if h : period.isZero = true then .error .zeroPeriod
  else match startedAt.checkedAdd period with
    | none => .error .deadlineOverflow
    | some nextDeadline => .ok ⟨period, nextDeadline, by
        simp only [Duration.isZero, beq_iff_eq] at h
        omega⟩

/-- The decision at `now` with the scheduler after it. -/
def step (scheduler : ReportScheduler) (now : Duration) : Except SchedulerError (TickDecision × ReportScheduler) :=
  if now < scheduler.nextDeadline then .ok (.notDue, scheduler)
  else
    let elapsed := (now.sub scheduler.nextDeadline).asNanos
    let periodNs := scheduler.period.asNanos
    let skipped := elapsed / periodNs
    if 2 ^ 64 ≤ skipped then .error .deadlineOverflow
    else match durationFromTotalNanos (periodNs - elapsed % periodNs) with
      | .error error => .error error
      | .ok untilNext =>
        match now.checkedAdd untilNext with
        | none => .error .deadlineOverflow
        | some nextDeadline => .ok (.due (UInt64.ofNat skipped), { scheduler with nextDeadline })

/-- What a successful step can be: not due, leaving the scheduler alone, or due
with the next deadline after now. -/
theorem step_cases {scheduler scheduler' : ReportScheduler} {now : Duration} {decision : TickDecision}
    (h : scheduler.step now = .ok (decision, scheduler')) :
    (now < scheduler.nextDeadline ∧ decision = .notDue ∧ scheduler' = scheduler) ∨
    (∃ skipped, scheduler.nextDeadline ≤ now ∧ decision = .due skipped ∧ now < scheduler'.nextDeadline) := by
  unfold step at h
  split at h
  · rename_i hlt
    cases h
    exact .inl ⟨hlt, rfl, rfl⟩
  · rename_i hle
    dsimp only at h
    split at h
    · cases h
    · split at h
      · cases h
      · rename_i untilNext huntil
        split at h
        · cases h
        · rename_i next hnext
          cases h
          refine .inr ⟨_, not_lt.1 hle, rfl, ?_⟩
          have hmod := Nat.mod_lt (now.sub scheduler.nextDeadline).asNanos scheduler.period_pos
          have hnanos : untilNext.asNanos =
              scheduler.period.asNanos - (now.sub scheduler.nextDeadline).asNanos % scheduler.period.asNanos := by
            unfold durationFromTotalNanos at huntil
            split at huntil
            · cases huntil
              rfl
            · cases huntil
          rw [Duration.lt_def, Duration.checkedAdd_some hnext]
          omega

/-- A schedule starts one period ahead. -/
theorem start_ahead {now period : Duration} {scheduler : ReportScheduler} (h : start now period = .ok scheduler) :
    scheduler.period = period ∧ scheduler.nextDeadline.asNanos = now.asNanos + period.asNanos := by
  unfold start at h
  split at h
  · cases h
  · split at h
    · cases h
    · rename_i next hnext
      cases h
      exact ⟨rfl, Duration.checkedAdd_some hnext⟩

/-- A due step passes the slots it missed and the one that holds now. -/
theorem step_due {scheduler scheduler' : ReportScheduler} {now : Duration} {skipped : UInt64}
    (h : scheduler.step now = .ok (.due skipped, scheduler')) :
    scheduler'.period = scheduler.period ∧ ∃ passed,
      scheduler.nextDeadline.asNanos + passed * scheduler.period.asNanos ≤ now.asNanos ∧
      now.asNanos < scheduler.nextDeadline.asNanos + (passed + 1) * scheduler.period.asNanos ∧
      scheduler'.nextDeadline.asNanos = scheduler.nextDeadline.asNanos + (passed + 1) * scheduler.period.asNanos := by
  unfold step at h
  split at h
  · cases h
  · rename_i hle
    dsimp only at h
    split at h
    · cases h
    · split at h
      · cases h
      · rename_i untilNext huntil
        split at h
        · cases h
        · rename_i next hnext
          cases h
          rw [not_lt, Duration.le_def] at hle
          have hpos := scheduler.period_pos
          have helapsed : (now.sub scheduler.nextDeadline).asNanos = now.asNanos - scheduler.nextDeadline.asNanos := rfl
          have hmod := Nat.mod_lt (now.sub scheduler.nextDeadline).asNanos hpos
          have hdiv := Nat.div_add_mod' (now.sub scheduler.nextDeadline).asNanos scheduler.period.asNanos
          have hnanos : untilNext.asNanos =
              scheduler.period.asNanos - (now.sub scheduler.nextDeadline).asNanos % scheduler.period.asNanos := by
            unfold durationFromTotalNanos at huntil
            split at huntil
            · cases huntil
              rfl
            · cases huntil
          have hsum := Duration.checkedAdd_some hnext
          refine ⟨rfl, (now.sub scheduler.nextDeadline).asNanos / scheduler.period.asNanos, ?_, ?_, ?_⟩
          · omega
          · rw [Nat.succ_mul]
            omega
          · rw [Nat.succ_mul]
            change next.asNanos = _
            omega

end ReportScheduler

end Swbt
