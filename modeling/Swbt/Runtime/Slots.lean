import Mathlib.Algebra.BigOperators.Group.List.Basic
import Mathlib.Algebra.GroupWithZero.Nat
import Swbt.Runtime.Scheduler
/-!
# The slots of a schedule

A schedule keeps its phase over any steps: its next deadline lies a whole
number of periods after its start, and what its steps have told of, due or
skipped, is every slot so far.
-/

set_option autoImplicit false

namespace Swbt

namespace ReportScheduler

variable {scheduler scheduler' : ReportScheduler} {now startedAt period : Duration} {skipped : UInt64}

/-! ## Steps of a scheduler in place -/

/-- `step` of a scheduler that is changed in place, which an error leaves as it is. -/
def stepMut (scheduler : ReportScheduler) (now : Duration) : Except SchedulerError TickDecision × ReportScheduler :=
  match scheduler.step now with
  | .ok (decision, stepped) => (.ok decision, stepped)
  | .error error => (.error error, scheduler)

/-- The results of steps at these times, and the scheduler after them. -/
def run (scheduler : ReportScheduler) : List Duration → List (Except SchedulerError TickDecision) × ReportScheduler
  | [] => ([], scheduler)
  | now :: times =>
    let (result, stepped) := scheduler.stepMut now
    let (results, last) := stepped.run times
    (result :: results, last)

/-- The slots that a decision tells of. -/
def slots : TickDecision → Nat
  | .notDue => 0
  | .due skipped => 1 + skipped.toNat

/-- The skipped slots do not fit a `u64`, or the next deadline no `Duration`. -/
def Overflows (scheduler : ReportScheduler) (now : Duration) : Prop :=
  2 ^ 64 ≤ (now.asNanos - scheduler.nextDeadline.asNanos) / scheduler.period.asNanos ∨
    maxNanos < now.asNanos + (scheduler.period.asNanos -
      (now.asNanos - scheduler.nextDeadline.asNanos) % scheduler.period.asNanos)

/-! ## What a step can do -/

/-- All that a step can do. -/
inductive Stepped (scheduler : ReportScheduler) (now : Duration) :
    Except SchedulerError TickDecision → ReportScheduler → Prop
  | early (hearly : now < scheduler.nextDeadline) : Stepped scheduler now (.ok .notDue) scheduler
  | overflow (hlate : scheduler.nextDeadline ≤ now) (hoverflow : scheduler.Overflows now) :
      Stepped scheduler now (.error .deadlineOverflow) scheduler
  | due {skipped : UInt64} {stepped : ReportScheduler} (hlate : scheduler.nextDeadline ≤ now)
      (hfits : ¬ scheduler.Overflows now)
      (hskipped : skipped.toNat = (now.asNanos - scheduler.nextDeadline.asNanos) / scheduler.period.asNanos)
      (hperiod : stepped.period = scheduler.period)
      (hnext : stepped.nextDeadline.asNanos = now.asNanos + (scheduler.period.asNanos -
        (now.asNanos - scheduler.nextDeadline.asNanos) % scheduler.period.asNanos)) :
      Stepped scheduler now (.ok (.due skipped)) stepped

/-- The time until the next slot is representable: it is at most the period. -/
theorem durationFromTotalNanos_period (scheduler : ReportScheduler) (remainder : Nat) :
    ∃ untilNext, durationFromTotalNanos (scheduler.period.asNanos - remainder) = .ok untilNext ∧
      untilNext.asNanos = scheduler.period.asNanos - remainder := by
  have hfits : scheduler.period.asNanos - remainder ≤ maxNanos := (Nat.sub_le _ _).trans scheduler.period.le_max
  exact ⟨⟨_, hfits⟩, dif_pos hfits, rfl⟩

theorem stepped (scheduler : ReportScheduler) (now : Duration) :
    Stepped scheduler now (scheduler.stepMut now).1 (scheduler.stepMut now).2 := by
  have hsub : (now.sub scheduler.nextDeadline).asNanos = now.asNanos - scheduler.nextDeadline.asNanos := rfl
  unfold stepMut step
  by_cases hearly : now < scheduler.nextDeadline
  · rw [if_pos hearly]
    exact .early hearly
  · rw [if_neg hearly]
    rw [not_lt] at hearly
    by_cases hskips : 2 ^ 64 ≤ (now.sub scheduler.nextDeadline).asNanos / scheduler.period.asNanos
    · simp only [if_pos hskips]
      exact .overflow hearly (.inl hskips)
    · simp only [if_neg hskips]
      obtain ⟨untilNext, huntil, hnanos⟩ := scheduler.durationFromTotalNanos_period
        ((now.sub scheduler.nextDeadline).asNanos % scheduler.period.asNanos)
      rw [huntil]
      rw [hsub] at hnanos
      dsimp only
      by_cases hsum : untilNext.asNanos + now.asNanos ≤ maxNanos
      · have hadd : now.checkedAdd untilNext = some ⟨_, hsum⟩ := dif_pos hsum
        rw [hadd]
        refine .due hearly ?_ ?_ rfl ?_
        · rintro (hskipped | hlarge)
          · exact hskips hskipped
          · omega
        · exact UInt64.toNat_ofNat_of_lt' (not_le.1 hskips)
        · change untilNext.asNanos + now.asNanos = _
          omega
      · have hadd : now.checkedAdd untilNext = none := dif_neg hsum
        rw [hadd]
        refine .overflow hearly (.inr ?_)
        omega

theorem start_ok (hpos : 0 < period.asNanos) (hfits : startedAt.asNanos + period.asNanos ≤ maxNanos) :
    ∃ scheduler, start startedAt period = .ok scheduler := by
  have hzero : ¬ period.isZero = true := by
    rw [Duration.isZero, beq_iff_eq]
    omega
  have hadd : startedAt.checkedAdd period = some ⟨period.asNanos + startedAt.asNanos, by omega⟩ :=
    dif_pos (by omega)
  unfold start
  rw [dif_neg hzero]
  split
  · rename_i hnone
    rw [hadd] at hnone
    cases hnone
  · exact ⟨_, rfl⟩

/-! ## The phase -/

/-- After `count` slots since `startedAt`, the last step having been at `last`. -/
structure Counted (startedAt period : Duration) (count last : Nat) (scheduler : ReportScheduler) : Prop where
  period_eq : scheduler.period = period
  next : scheduler.nextDeadline.asNanos = startedAt.asNanos + (count + 1) * period.asNanos
  passed : count * period.asNanos ≤ last - startedAt.asNanos

theorem counted_start (h : start startedAt period = .ok scheduler) (last : Nat) : Counted startedAt period 0 last scheduler where
  period_eq := (start_ahead h).1
  next := by
    rw [(start_ahead h).2]
    omega
  passed := by omega

/-- A due step moves on by the slots it tells of. -/
theorem Stepped.due_next (hstepped : Stepped scheduler now (.ok (.due skipped)) scheduler') :
    scheduler'.nextDeadline.asNanos = scheduler.nextDeadline.asNanos + (1 + skipped.toNat) * scheduler.period.asNanos ∧
      now.asNanos < scheduler'.nextDeadline.asNanos ∧
      scheduler'.nextDeadline.asNanos ≤ now.asNanos + scheduler.period.asNanos := by
  cases hstepped with
  | due hlate hfits hskipped hperiod hnext =>
    rw [Duration.le_def] at hlate
    have hmod := Nat.mod_lt (now.asNanos - scheduler.nextDeadline.asNanos) scheduler.period_pos
    have hdiv := Nat.div_add_mod' (now.asNanos - scheduler.nextDeadline.asNanos) scheduler.period.asNanos
    rw [← hskipped] at hdiv
    rw [Nat.add_mul, Nat.one_mul]
    omega

theorem Counted.due {count last : Nat} (hcounted : Counted startedAt period count last scheduler)
    (hstepped : Stepped scheduler now (.ok (.due skipped)) scheduler') :
    Counted startedAt period (count + (1 + skipped.toNat)) now.asNanos scheduler' ∧
      (now.asNanos - startedAt.asNanos) / period.asNanos = count + (1 + skipped.toNat) := by
  obtain ⟨hnext, hahead, hnear⟩ := hstepped.due_next
  have hsame : scheduler'.period = scheduler.period := by
    cases hstepped with
    | due hlate hfits hskipped hperiod hnext => exact hperiod
  have hpos := scheduler.period_pos
  rw [hcounted.period_eq] at hnext hnear hpos
  have hstart := hcounted.next
  have hslots := Nat.add_mul count (1 + skipped.toNat) period.asNanos
  rw [Nat.succ_mul] at hstart
  refine ⟨⟨hsame.trans hcounted.period_eq, ?_, ?_⟩, Nat.div_eq_of_lt_le ?_ ?_⟩
  · rw [Nat.succ_mul]
    omega
  · omega
  · omega
  · rw [Nat.succ_mul]
    omega

theorem Counted.early {count last : Nat} (hcounted : Counted startedAt period count last scheduler)
    (hlast : last ≤ now.asNanos) (hearly : now < scheduler.nextDeadline) :
    Counted startedAt period count now.asNanos scheduler ∧
      (now.asNanos - startedAt.asNanos) / period.asNanos = count := by
  rw [Duration.lt_def, hcounted.next] at hearly
  have hpassed := hcounted.passed
  refine ⟨⟨hcounted.period_eq, hcounted.next, by omega⟩, Nat.div_eq_of_lt_le (by omega) ?_⟩
  have hpos := scheduler.period_pos
  rw [hcounted.period_eq] at hpos
  rw [Nat.succ_mul] at hearly ⊢
  omega

theorem Counted.step {count last : Nat} {decision : TickDecision} (hcounted : Counted startedAt period count last scheduler)
    (hlast : last ≤ now.asNanos) (hstepped : Stepped scheduler now (.ok decision) scheduler') :
    Counted startedAt period (count + slots decision) now.asNanos scheduler' ∧
      (now.asNanos - startedAt.asNanos) / period.asNanos = count + slots decision := by
  cases decision with
  | notDue =>
    cases hstepped with
    | early hearly => exact hcounted.early hlast hearly
  | due skipped => exact hcounted.due hstepped

/-- The decisions of a run that does not fail tell of every slot up to its last step. -/
theorem Counted.run {count last : Nat} {times : List Duration} {decisions : List TickDecision}
    (hcounted : Counted startedAt period count last scheduler) (hlast : ∀ now ∈ times, last ≤ now.asNanos)
    (hsorted : times.Pairwise (· ≤ ·)) (hresults : (scheduler.run times).1 = decisions.map .ok)
    (hnow : times.getLast? = some now) :
    count + (decisions.map slots).sum = (now.asNanos - startedAt.asNanos) / period.asNanos := by
  induction times generalizing scheduler count last decisions with
  | nil => cases hnow
  | cons first rest ih =>
    have hstepped := scheduler.stepped first
    unfold ReportScheduler.run at hresults
    cases decisions with
    | nil => cases hresults
    | cons decision later =>
      rw [List.map_cons, List.cons.injEq] at hresults
      obtain ⟨hfirst, hrest⟩ := hresults
      rw [hfirst] at hstepped
      obtain ⟨hnext, htotal⟩ := hcounted.step (hlast first List.mem_cons_self) hstepped
      obtain ⟨hahead, hsorted⟩ := List.pairwise_cons.1 hsorted
      cases rest with
      | nil =>
        cases hnow
        cases later with
        | nil => simp [htotal]
        | cons _ _ => cases hrest
      | cons second rest =>
        rw [List.getLast?_cons_cons] at hnow
        rw [List.map_cons, List.sum_cons, ← Nat.add_assoc]
        exact ih hnext (fun now hmem => hahead now hmem) hsorted hrest hnow

/-- The phase is kept by any steps, successful or not, in any order. -/
def InPhase (startedAt period : Duration) (scheduler : ReportScheduler) : Prop :=
  scheduler.period = period ∧ ∃ k, 1 ≤ k ∧ scheduler.nextDeadline.asNanos = startedAt.asNanos + k * period.asNanos

theorem InPhase.step {result : Except SchedulerError TickDecision} (hphase : InPhase startedAt period scheduler)
    (hstepped : Stepped scheduler now result scheduler') : InPhase startedAt period scheduler' := by
  cases hstepped with
  | early hearly => exact hphase
  | overflow hlate hoverflow => exact hphase
  | due hlate hfits hskipped hperiod hnext =>
    rename_i skipped
    obtain ⟨hsame, k, hk, hphase⟩ := hphase
    obtain ⟨hnext, -, -⟩ := (Stepped.due hlate hfits hskipped hperiod hnext).due_next
    refine ⟨hperiod.trans hsame, k + (1 + skipped.toNat), hk.trans (Nat.le_add_right _ _), ?_⟩
    rw [hnext, hphase, hsame, Nat.add_mul k]
    omega

theorem InPhase.run (hphase : InPhase startedAt period scheduler) (times : List Duration) :
    InPhase startedAt period (scheduler.run times).2 := by
  induction times generalizing scheduler with
  | nil => exact hphase
  | cons now times ih => exact ih (hphase.step (scheduler.stepped now))

/-! ## Arithmetic that may panic -/

def u128 (value : Nat) : Option Nat := if value < 2 ^ 128 then some value else none

def u128Sub (left right : Nat) : Option Nat := if right ≤ left then some (left - right) else none

def u128Div (left right : Nat) : Option Nat := if right = 0 then none else some (left / right)

def u128Rem (left right : Nat) : Option Nat := if right = 0 then none else some (left % right)

/-- `Duration::new`, which panics if its seconds overflow. -/
def newDuration (seconds nanoseconds : Nat) : Option Duration :=
  if h : seconds * 1000000000 + nanoseconds ≤ maxNanos then some ⟨_, h⟩ else none

def durationFromTotalNanosChecked (totalNanos : Nat) : Option (Except SchedulerError Duration) := do
  let seconds ← u128Div totalNanos 1000000000
  if 2 ^ 64 ≤ seconds then return .error .deadlineOverflow
  let nanoseconds ← u128Rem totalNanos 1000000000
  if 2 ^ 32 ≤ nanoseconds then return .error .deadlineOverflow
  return .ok (← newDuration seconds nanoseconds)

/-- `step` with each of its operations, `none` if one of them panics or wraps. -/
def stepChecked (scheduler : ReportScheduler) (now : Duration) :
    Option (Except SchedulerError (TickDecision × ReportScheduler)) := do
  if now < scheduler.nextDeadline then return .ok (.notDue, scheduler)
  let elapsed ← u128Sub now.asNanos scheduler.nextDeadline.asNanos
  let elapsedNs ← u128 elapsed
  let periodNs ← u128 scheduler.period.asNanos
  let skipped ← u128Div elapsedNs periodNs
  if 2 ^ 64 ≤ skipped then return .error .deadlineOverflow
  let remainderNs ← u128Rem elapsedNs periodNs
  let untilNextNs ← u128Sub periodNs remainderNs
  match ← durationFromTotalNanosChecked untilNextNs with
  | .error error => return .error error
  | .ok untilNext =>
    match now.checkedAdd untilNext with
    | none => return .error .deadlineOverflow
    | some nextDeadline => return .ok (.due (UInt64.ofNat skipped), { scheduler with nextDeadline })

theorem durationFromTotalNanosChecked_eq {totalNanos : Nat} (hfits : totalNanos ≤ maxNanos) :
    durationFromTotalNanosChecked totalNanos = some (durationFromTotalNanos totalNanos) := by
  have hseconds : totalNanos / 1000000000 < 2 ^ 64 := by
    unfold maxNanos at hfits
    omega
  have hnanos : totalNanos % 1000000000 < 2 ^ 32 := by omega
  have hsum : totalNanos / 1000000000 * 1000000000 + totalNanos % 1000000000 = totalNanos := Nat.div_add_mod' _ _
  have hnew : newDuration (totalNanos / 1000000000) (totalNanos % 1000000000) = some ⟨totalNanos, hfits⟩ := by
    unfold newDuration
    rw [dif_pos (by omega)]
    congr 2
  unfold durationFromTotalNanosChecked durationFromTotalNanos u128Div u128Rem
  rw [dif_pos hfits, if_neg (by decide), if_neg (by decide)]
  simp only [Option.bind_eq_bind, Option.bind_some, if_neg (not_le.2 hseconds), if_neg (not_le.2 hnanos), hnew]
  rfl

/-- No operation of a step panics or wraps, whatever the durations. -/
theorem stepChecked_eq (scheduler : ReportScheduler) (now : Duration) :
    scheduler.stepChecked now = some (scheduler.step now) := by
  have hwide : maxNanos < 2 ^ 128 := by decide
  have hpos := scheduler.period_pos
  unfold stepChecked step
  by_cases hearly : now < scheduler.nextDeadline
  · rw [if_pos hearly, if_pos hearly]
    rfl
  · rw [if_neg hearly, if_neg hearly]
    rw [not_lt, Duration.le_def] at hearly
    have hsub : u128Sub now.asNanos scheduler.nextDeadline.asNanos = some (now.sub scheduler.nextDeadline).asNanos :=
      if_pos hearly
    generalize now.sub scheduler.nextDeadline = elapsed at hsub
    have helapsed : u128 elapsed.asNanos = some elapsed.asNanos := if_pos (lt_of_le_of_lt elapsed.le_max hwide)
    have hperiod : u128 scheduler.period.asNanos = some scheduler.period.asNanos :=
      if_pos (lt_of_le_of_lt scheduler.period.le_max hwide)
    have hdiv : u128Div elapsed.asNanos scheduler.period.asNanos = some (elapsed.asNanos / scheduler.period.asNanos) :=
      if_neg (Nat.ne_of_gt hpos)
    have hrem : u128Rem elapsed.asNanos scheduler.period.asNanos = some (elapsed.asNanos % scheduler.period.asNanos) :=
      if_neg (Nat.ne_of_gt hpos)
    have huntil : u128Sub scheduler.period.asNanos (elapsed.asNanos % scheduler.period.asNanos) =
        some (scheduler.period.asNanos - elapsed.asNanos % scheduler.period.asNanos) := if_pos (Nat.mod_lt _ hpos).le
    have hduration := durationFromTotalNanosChecked_eq ((Nat.sub_le _ (elapsed.asNanos % scheduler.period.asNanos)).trans
      scheduler.period.le_max)
    simp only [hsub, helapsed, hperiod, hdiv, hrem, huntil, hduration, Option.bind_eq_bind, Option.bind_some]
    split
    · rfl
    · cases durationFromTotalNanos (scheduler.period.asNanos - elapsed.asNanos % scheduler.period.asNanos) with
      | error error => rfl
      | ok untilNext =>
        dsimp only
        cases now.checkedAdd untilNext <;> rfl

end ReportScheduler

/-! ## Schedules -/

open ReportScheduler in
/-- A schedule keeps its phase, tells of every slot once, and overflows only with an error. -/
theorem absolute_phase {startedAt period : Duration} (hpos : 0 < period.asNanos)
    (hfits : startedAt.asNanos + period.asNanos ≤ maxNanos) :
    ∃ scheduler, start startedAt period = .ok scheduler ∧ ∀ times : List Duration, times.Pairwise (· ≤ ·) →
      ∀ after, after = (scheduler.run times).2 →
      (∃ k, 1 ≤ k ∧ after.nextDeadline.asNanos = startedAt.asNanos + k * period.asNanos) ∧
      (∀ now, ((∃ skipped, (after.stepMut now).1 = .ok (.due skipped)) ↔
        after.nextDeadline ≤ now ∧ ¬ after.Overflows now)) ∧
      (∀ now skipped, (after.stepMut now).1 = .ok (.due skipped) →
        now < (after.stepMut now).2.nextDeadline ∧
          (after.stepMut now).2.nextDeadline.asNanos ≤ now.asNanos + period.asNanos) ∧
      (∀ now, (after.stepMut now).1 = .ok .notDue → (after.stepMut now).2 = after) ∧
      (∀ now error, (after.stepMut now).1 = .error error →
        error = .deadlineOverflow ∧ after.Overflows now ∧ (after.stepMut now).2 = after) ∧
      (∀ now, after.stepChecked now = some (after.step now)) ∧
      ∀ (decisions : List TickDecision) (now : Duration), (scheduler.run times).1 = decisions.map .ok → times.getLast? = some now →
        (decisions.map slots).sum = (now.asNanos - startedAt.asNanos) / period.asNanos := by
  obtain ⟨scheduler, hstart⟩ := start_ok hpos hfits
  have hcounted := counted_start hstart 0
  refine ⟨scheduler, hstart, ?_⟩
  rintro times hsorted after rfl
  -- Every schedule the run leads to keeps the phase of the first.
  have hphase : InPhase startedAt period (scheduler.run times).2 := by
    refine InPhase.run ⟨hcounted.period_eq, 1, Nat.le_refl _, ?_⟩ times
    rw [hcounted.next]
  refine ⟨hphase.2, ?_, ?_, ?_, ?_, fun now => stepChecked_eq _ now, ?_⟩
  · intro now
    have hstepped := (scheduler.run times).2.stepped now
    constructor
    · rintro ⟨skipped, hdue⟩
      rw [hdue] at hstepped
      cases hstepped with
      | due hlate hfits hskipped hperiod hnext => exact ⟨hlate, hfits⟩
    · rintro ⟨hlate, hfits⟩
      generalize ((scheduler.run times).2.stepMut now).2 = stepped at hstepped
      cases hresult : ((scheduler.run times).2.stepMut now).1 with
      | error error =>
        rw [hresult] at hstepped
        cases hstepped with
        | overflow _ hoverflow => exact absurd hoverflow hfits
      | ok decision =>
        rw [hresult] at hstepped
        cases hstepped with
        | early hearly => exact absurd hlate (not_le.2 hearly)
        | due _ _ _ _ _ => exact ⟨_, rfl⟩
  · intro now skipped hdue
    have hstepped := (scheduler.run times).2.stepped now
    rw [hdue] at hstepped
    have hnext := hstepped.due_next.2
    rw [hphase.1] at hnext
    exact hnext
  · intro now hearly
    have hstepped := (scheduler.run times).2.stepped now
    rw [hearly] at hstepped
    generalize ((scheduler.run times).2.stepMut now).2 = stepped at hstepped
    cases hstepped
    rfl
  · intro now error herror
    have hstepped := (scheduler.run times).2.stepped now
    rw [herror] at hstepped
    generalize ((scheduler.run times).2.stepMut now).2 = stepped at hstepped
    cases hstepped with
    | overflow hlate hoverflow => exact ⟨rfl, hoverflow, rfl⟩
  · intro decisions now hresults hnow
    have htotal := hcounted.run (fun _ _ => Nat.zero_le _) hsorted hresults hnow
    rwa [Nat.zero_add] at htotal

/-- Every 8 ms from 100 ms on, a step at 132 ms skips three slots. -/
theorem absolute_phase_report : ∃ scheduler, ReportScheduler.start ⟨100000000, by decide⟩ ⟨8000000, by decide⟩ = .ok scheduler ∧
    (scheduler.run [⟨107000000, by decide⟩, ⟨132000000, by decide⟩]).1 = [.ok .notDue, .ok (.due 3)] ∧
    ([.notDue, .due 3].map ReportScheduler.slots).sum = (132000000 - 100000000) / 8000000 := by
  obtain ⟨scheduler, hstart, hrun⟩ := @absolute_phase ⟨100000000, by decide⟩ ⟨8000000, by decide⟩ (by decide) (by decide)
  have hresults : (scheduler.run [⟨107000000, by decide⟩, ⟨132000000, by decide⟩]).1 =
      [TickDecision.notDue, .due 3].map .ok := by
    have hfirst : scheduler = ⟨⟨8000000, by decide⟩, ⟨108000000, by decide⟩, by decide⟩ :=
      Except.ok.inj (hstart.symm.trans (by decide +kernel))
    rw [hfirst]
    decide +kernel
  have hsorted : [(⟨107000000, by decide⟩ : Duration), ⟨132000000, by decide⟩].Pairwise (· ≤ ·) := by decide +kernel
  obtain ⟨-, -, -, -, -, -, htotal⟩ := hrun _ hsorted _ rfl
  exact ⟨scheduler, hstart, hresults, htotal _ ⟨132000000, by decide⟩ hresults (by simp)⟩

end Swbt
