import Swbt.Effects.Given
import Swbt.Runtime.Run
/-!
# How a step ends

A step drives its connection and runs what is due once more before it reports
its next deadline. With a clock that stands still, `Tail` says what these two
come to, and `Later` what a deadline is that they leave behind.
-/

set_option autoImplicit false

open Effects

namespace Swbt

variable {m : ControllerKind} {r : ReportingKind} {h h₁ h' : Log m r} {s s₁ s' : Frame m r} {t : Duration}
  {R : LogEvent m r → Prop}

/-! ## Deadlines -/

/-- Nothing is due by `t`. -/
def Later (t : Duration) (deadline : Option Duration) : Prop := ∀ d, deadline = some d → t < d

@[simp] theorem later_none (t : Duration) : Later t none := nofun

@[simp] theorem later_some (t d : Duration) : Later t (some d) ↔ t < d := by
  constructor
  · intro hlater
    exact hlater d rfl
  · rintro hlt _ ⟨⟩
    exact hlt

@[simp] theorem later_minimum (t : Duration) (left right : Option Duration) :
    Later t (minimumDeadline left right) ↔ Later t left ∧ Later t right := by
  cases left <;> cases right <;> simp [minimumDeadline]

/-- The deadline of a policy, which is that of its holdoff before its schedule runs. -/
def PeriodicPolicy.reported (policy : PeriodicPolicy) : Option Duration :=
  policy.nextDeadline <|> policy.replyHoldoffUntil

theorem later_reporting (reporting : Reporting m r) : Later t reporting.nextDeadline ↔
    (∀ tap, reporting.tap = some tap → t < tap.releaseAt) ∧
      ∀ policy, reporting.policy = some policy → Later t policy.reported := by
  cases reporting with
  | periodic runtime =>
    obtain ⟨policy, pendingTap⟩ := runtime
    cases pendingTap <;>
      simp [Reporting.nextDeadline, Periodic.nextDeadline, Reporting.tap, Reporting.policy, PeriodicPolicy.reported,
        and_comm]
  | direct runtime =>
    obtain ⟨pendingTap⟩ := runtime
    cases pendingTap <;> simp [Reporting.nextDeadline, Direct.nextDeadline, Reporting.tap, Reporting.policy]

theorem PeriodicPolicy.heldOff_iff (policy : PeriodicPolicy) (t until_ : Duration) :
    policy.heldOff t = some until_ ↔ policy.replyHoldoffUntil = some until_ ∧ t < until_ := by
  unfold heldOff
  simp [Option.filter_eq_some_iff]

/-- With a schedule, nothing is reported as due just where nothing is. -/
theorem PeriodicPolicy.later_running {policy : PeriodicPolicy} {scheduler : ReportScheduler}
    (hscheduler : policy.scheduler = some scheduler) : Later t policy.reported ↔ policy.NotDue t := by
  have hdeadline : Later t policy.reported ↔ (policy.heldOff t).isSome = true ∨ t < scheduler.nextDeadline := by
    unfold reported nextDeadline heldOff
    rw [hscheduler]
    cases policy.replyHoldoffUntil with
    | none => simp
    | some until_ => simp
  rw [hdeadline]
  constructor
  · intro hlater
    exact ⟨scheduler, hscheduler, hlater⟩
  · rintro ⟨other, hother, hnot⟩
    rw [hscheduler] at hother
    cases hother
    exact hnot

theorem PeriodicPolicy.reported_stopped {policy : PeriodicPolicy} (hscheduler : policy.scheduler = none) :
    policy.reported = policy.replyHoldoffUntil := by
  unfold reported nextDeadline
  rw [hscheduler]
  rfl

/-- What a core reports lies after `t` where every part of it does. -/
theorem later_nextDeadline (core : WorkerCore m r) : Later t core.nextDeadline ↔ Later t core.reporting.nextDeadline ∧
    ∀ work, core.connection = some work →
      t < work.readiness.operationDeadline ∧ Later t (work.handshake.bind Handshake.nextDeadline) := by
  unfold WorkerCore.nextDeadline
  cases hconnection : core.connection with
  | none => simp
  | some work => simp [and_assoc]

/-! ## Nothing due -/

/-- Neither the tap nor the schedule of the frame is due at `t`. -/
def Frame.Still (t : Duration) (s : Frame m r) : Prop :=
  (∀ tap, s.reporting.tap = some tap → t < tap.releaseAt) ∧ ∀ policy, s.reporting.policy = some policy → policy.NotDue t

/-- A report that is not due is left to wait. -/
theorem runAutomatic_still {h : Log m .periodic} {s : Frame m .periodic} (hnot : s.periodic.policy.NotDue t) :
    Act.wp (Periodic.runAutomatic t) h s fun h' s' due => h' = h ∧ s' = s ∧ due = .none := by
  obtain ⟨scheduler, hscheduler, hwaits⟩ := hnot
  unfold Periodic.runAutomatic PeriodicPolicy.sendDue
  simp only [Act.wp_bind, wp_frame, hscheduler]
  cases hheld : s.periodic.policy.heldOff t with
  | some until_ => exact ⟨rfl, rfl, rfl⟩
  | none =>
    rw [hheld] at hwaits
    have hlt : t < scheduler.nextDeadline := hwaits.resolve_left (by simp)
    have hearly : scheduler.step t = .ok (.notDue, scheduler) := if_pos hlt
    simp only [hearly]
    exact ⟨rfl, rfl, rfl⟩

/-- In a frame where nothing is due, nothing is done. -/
theorem runDue_still (hstill : s.Still t) :
    Act.wp (Reporting.runDue t) h s fun h' s' due => h' = h ∧ s' = s ∧ due = .none := by
  obtain ⟨htap, hpolicy⟩ := hstill
  cases r with
  | periodic =>
    change Act.wp (Periodic.runDue t) h s _
    unfold Periodic.runDue
    rw [Act.wp_bind, wp_frame]
    dsimp only
    cases hpending : s.periodic.pendingTap with
    | none => exact runAutomatic_still (hpolicy _ s.policy_eq)
    | some pending =>
      have hlt : t < pending.releaseAt := by
        refine htap ⟨pending.tap.released, pending.releaseAt, pending.tap.firstError⟩ ?_
        rw [Frame.periodicTap_eq, hpending]
        rfl
      rw [Option.any_some, if_neg (by simpa using hlt)]
      exact runAutomatic_still (hpolicy _ s.policy_eq)
  | direct =>
    change Act.wp (Direct.runDue t) h s _
    unfold Direct.runDue
    rw [Act.wp_bind, wp_frame]
    cases hpending : s.direct.pendingTap with
    | none => exact ⟨rfl, rfl, rfl⟩
    | some tap =>
      have hlt : t < tap.releaseAt := by
        refine htap ⟨tap.released, tap.releaseAt, none⟩ ?_
        rw [Frame.directTap_eq, hpending]
        rfl
      simp only [hlt, if_true]
      exact ⟨rfl, rfl, rfl⟩

/-- What falls due at `t`, which is nothing where nothing is due. -/
def DueRun (t : Duration) (h : Log m r) (s : Frame m r) (h' : Log m r) (s' : Frame m r) (due : ReportingDue) : Prop :=
  DueEffect t h s h' s' due ∧ (s.Still t → h' = h ∧ s' = s ∧ due = .none)

theorem runDue_run (t : Duration) (h : Log m r) (s : Frame m r) : Act.wp (Reporting.runDue t) h s (DueRun t h s) := by
  by_cases hstill : s.Still t
  · exact Act.wp_mono (Act.wp_and (runDue_spec t h s) (runDue_still hstill)) fun _ _ _ hboth => ⟨hboth.1, fun _ => hboth.2⟩
  · exact Act.wp_mono (runDue_spec t h s) fun _ _ _ hdue => ⟨hdue, fun hnow => absurd hnow hstill⟩

/-! ## The end of a step -/

def Frame.countActions (s : Frame m r) (actions : Nat) : Frame m r :=
  { s with progress := { s.progress with dueActions := s.progress.dueActions + actions } }

/-- The last drive and the due actions of a step, at `t` and in an environment of `R`. -/
inductive Tail (R : LogEvent m r → Prop) (t : Duration) (h : Log m r) (s : Frame m r) :
    Log m r → Frame m r → WorkerStep → Prop
  | closed {h' : Log m r} {s' f : Frame m r} {step : WorkerStep} {request : ShutdownRequest}
      (hrequest : R (.call f Op.takeShutdown (some request))) (hends : step.goesOn = false) : Tail R t h s h' s' step
  | driveFailed {h₁ h' : Log m r} {s₁ s' : Frame m r} {error : WorkerCoreError} {step : WorkerStep}
      (hdrive : DriveEffect t (.call s Op.now t :: h) s h₁ s₁ (.error error))
      (hfail : FailEffect error (.call s₁ Op.takeShutdown none :: h₁) s₁ h' s' step) : Tail R t h s h' s' step
  | driven {h₁ : Log m r} {s₁ : Frame m r} {actions : Nat}
      (hdrive : DriveEffect t (.call s Op.now t :: h) s h₁ s₁ (.ok actions))
      (hskip : ¬ (s₁.countActions actions).DueAllowed) :
      Tail R t h s (.call (s₁.countActions actions) Op.takeShutdown none :: h₁) (s₁.countActions actions).finish
        (.continue (s₁.countActions actions).finish.progress)
  | dueFailed {h₁ h₂ h' : Log m r} {s₁ s₂ s' : Frame m r} {actions : Nat} {due : ReportingDue} {error : WorkerCoreError}
      {step : WorkerStep} (hdrive : DriveEffect t (.call s Op.now t :: h) s h₁ s₁ (.ok actions))
      (hallowed : (s₁.countActions actions).DueAllowed)
      (hdue : DueRun t (.call (s₁.countActions actions) Op.now t ::
        .call (s₁.countActions actions) Op.takeShutdown none :: h₁) (s₁.countActions actions) h₂ s₂ due)
      (hterminal : due.terminal = some error)
      (hfail : FailEffect error (.call (s₂.recordDue due) Op.takeShutdown none :: h₂) (s₂.recordDue due) h' s' step) :
      Tail R t h s h' s' step
  | due {h₁ h₂ : Log m r} {s₁ s₂ : Frame m r} {actions : Nat} {due : ReportingDue}
      (hdrive : DriveEffect t (.call s Op.now t :: h) s h₁ s₁ (.ok actions))
      (hallowed : (s₁.countActions actions).DueAllowed)
      (hdue : DueRun t (.call (s₁.countActions actions) Op.now t ::
        .call (s₁.countActions actions) Op.takeShutdown none :: h₁) (s₁.countActions actions) h₂ s₂ due) :
      Tail R t h s (.call (s₂.recordDue due) Op.takeShutdown none :: h₂) (s₂.recordDue due).finish
        (.continue (s₂.recordDue due).finish.progress)

/-- The clock stands at `t`. -/
def AtTime (t : Duration) (e : LogEvent m r) : Prop := ∀ s t', e = .call s Op.now t' → t' = t

section Given

variable (R) (h) (s)

@[simp] theorem given_takeShutdown (Q : Log m r → Frame m r → Option ShutdownRequest → Prop) :
    Act.given R takeShutdown h s Q ↔ ∀ x : Option ShutdownRequest,
      R (.call s Op.takeShutdown x) → Q (.call s Op.takeShutdown x :: h) s x := Iff.rfl

@[simp] theorem given_nextCommand (Q : Log m r → Frame m r → Option (RuntimeCommand m r) → Prop) :
    Act.given R nextCommand h s Q ↔ ∀ x : Option (RuntimeCommand m r),
      R (.call s Op.nextCommand x) → Q (.call s Op.nextCommand x :: h) s x := Iff.rfl

@[simp] theorem given_poll (timeout : Duration) (Q : Log m r → Frame m r → TransportResult (List TransportEvent) → Prop) :
    Act.given R (poll timeout) h s Q ↔ ∀ x : TransportResult (List TransportEvent),
      R (.call s (Op.poll timeout) x) → Q (.call s (Op.poll timeout) x :: h) s x := Iff.rfl

@[simp] theorem given_frame (Q : Log m r → Frame m r → Frame m r → Prop) : Act.given R frame h s Q ↔ Q h s s := Iff.rfl

@[simp] theorem given_update (f : Frame m r → Frame m r) (Q : Log m r → Frame m r → Unit → Prop) :
    Act.given R (update f) h s Q ↔ Q h (f s) () := Iff.rfl

end Given

theorem given_now (hR : ∀ e, R e → AtTime t e) (Q : Log m r → Frame m r → Duration → Prop)
    (hQ : Q (.call s Op.now t :: h) s t) : Act.given R now h s Q := by
  intro t' ht'
  have htime := hR _ ht' _ _ rfl
  subst htime
  exact hQ

theorem CloseEffect.halts {request : ShutdownRequest} {step : WorkerStep} (he : CloseEffect request t h s h' s' step) :
    step.goesOn = false := by
  cases he
  rfl

theorem FailEffect.halts {error : WorkerCoreError} {step : WorkerStep} (he : FailEffect error h s h' s' step) :
    step.goesOn = false := by
  cases he
  rfl

/-- Without a request the step goes on, and with one it has an end. -/
theorem given_closeIfRequested (hR : ∀ e, R e → AtTime t e) (hs : s.Sound)
    (Q : Log m r → Frame m r → Option WorkerStep → Prop) (hnone : Q (.call s Op.takeShutdown none :: h) s none)
    (hclosed : ∀ request h' s' step, R (.call s Op.takeShutdown (some request)) → step.goesOn = false →
      Q h' s' (some step)) : Act.given R closeIfRequested h s Q := by
  unfold closeIfRequested
  rw [Act.given_bind, given_takeShutdown]
  intro request hrequest
  cases request with
  | none => exact hnone
  | some request =>
    dsimp only
    rw [Act.given_bind]
    refine given_now hR _ ?_
    rw [Act.given_bind]
    refine Act.given_of_wp (Act.wp_mono (close_spec request t _ s fun hcommand => hs.unanswered (.inl hcommand)) ?_)
    intro h' s' step hclose
    exact hclosed request h' s' step hrequest hclose.halts

/-- A terminal error ends the step, unless a request does. -/
theorem given_fail (hR : ∀ e, R e → AtTime t e) {error : WorkerCoreError} (hs : s.Sound)
    (Q : Log m r → Frame m r → WorkerStep → Prop)
    (hfailed : ∀ h' s' step, FailEffect error (.call s Op.takeShutdown none :: h) s h' s' step → Q h' s' step)
    (hclosed : ∀ request h' s' step, R (.call s Op.takeShutdown (some request)) → step.goesOn = false → Q h' s' step) :
    Act.given R (failOrClose error) h s Q := by
  unfold failOrClose
  rw [Act.given_bind]
  refine given_closeIfRequested hR hs _ ?_ hclosed
  exact Act.given_of_wp (Act.wp_mono (fail_spec error _ s fun hcommand => hs.unanswered (.inl hcommand)) hfailed)

/-- The program of a step from its last drive on. -/
def stepTail : Worker m r WorkerStep := do
  match ← drive with
  | some exit => return exit
  | none =>
    match ← duePhase with
    | some exit => return exit
    | none => finishStep

/-- What comes after a due action that is recorded. -/
theorem settledTail_spec (hR : ∀ e, R e → AtTime t e) (hs : s.Sound) (terminal : Option WorkerCoreError)
    (Q : Log m r → Frame m r → WorkerStep → Prop)
    (hnone : terminal = none → Q (.call s Op.takeShutdown none :: h) s.finish (.continue s.finish.progress))
    (hfailed : ∀ error h' s' step, terminal = some error →
      FailEffect error (.call s Op.takeShutdown none :: h) s h' s' step → Q h' s' step)
    (hclosed : ∀ request h' s' step, R (.call s Op.takeShutdown (some request)) → step.goesOn = false → Q h' s' step) :
    Act.given R (do
      match ← (do
        match ← closeIfRequested with
        | some exit => return some exit
        | none =>
          match terminal with
          | some error => return some (← fail error)
          | none => return none) with
      | some exit => return exit
      | none => finishStep) h s Q := by
  rw [Act.given_bind, Act.given_bind]
  refine given_closeIfRequested hR hs _ ?_ hclosed
  cases terminal with
  | none => exact hnone rfl
  | some error =>
    dsimp only
    rw [Act.given_bind]
    refine Act.given_of_wp (Act.wp_mono (fail_spec error _ s fun hcommand => hs.unanswered (.inl hcommand)) ?_)
    intro h' s' step hfail
    exact hfailed error h' s' step rfl hfail

/-- What is left of a step after its last drive. -/
theorem dueTail_spec (hR : ∀ e, R e → AtTime t e) {actions : Nat}
    (hdrive : DriveEffect t (.call s Op.now t :: h) s h₁ s₁ (.ok actions)) (hs : (s₁.countActions actions).Sound) :
    Act.given R (do
      match ← duePhase with
      | some exit => return exit
      | none => finishStep) (.call (s₁.countActions actions) Op.takeShutdown none :: h₁) (s₁.countActions actions)
      (Tail R t h s) := by
  rw [Act.given_bind]
  unfold duePhase
  rw [Act.given_bind, given_frame]
  split
  · rename_i hallowed
    have hallowed : (s₁.countActions actions).DueAllowed := by
      simpa only [WorkerCore.DueAllowed, Bool.or_eq_true, Bool.and_eq_true, decide_eq_true_eq] using hallowed
    unfold modifyProgress
    rw [Act.given_bind]
    refine given_now hR _ ?_
    rw [Act.given_bind]
    refine Act.given_of_wp (Act.wp_mono (runDue_run t _ (s₁.countActions actions)) ?_)
    intro h₂ s₂ due hdue
    have hs₂ := (Move.due hallowed hdue.1).sound hs
    rw [Act.given_bind, given_update, Act.given_bind]
    refine Act.given_of_wp (recordDueCompletion_spec _ _ (s₂.countDue due) (hdue.1.unanswered hs) _ ?_)
    rw [Act.given_bind]
    refine Act.given_of_wp (recordDueErrors_spec _ _ _ _ _ ?_)
    rw [← Act.given_bind]
    refine settledTail_spec hR hs₂ due.terminal _ ?_ ?_ ?_
    · exact fun _ => .due hdrive hallowed hdue
    · exact fun error h' s' step hterminal hfail => .dueFailed hdrive hallowed hdue hterminal hfail
    · exact fun request h' s' step hrequest hends => .closed hrequest hends
  · rename_i hskip
    refine .driven hdrive ?_
    simpa only [WorkerCore.DueAllowed, Bool.or_eq_true, Bool.and_eq_true, decide_eq_true_eq] using hskip

theorem stepTail_spec (hR : ∀ e, R e → AtTime t e) (hs : s.Sound) :
    Act.given R stepTail h s (Tail R t h s) := by
  unfold stepTail drive
  rw [Act.given_bind, Act.given_bind]
  refine given_now hR _ ?_
  rw [Act.given_bind]
  refine Act.given_of_wp (Act.wp_mono (driveConnection_spec t _ s hs) ?_)
  intro h₁ s₁ result hdrive
  have hs₁ := (Move.drive hdrive).sound hs
  cases result with
  | error error =>
    dsimp only
    rw [Act.given_bind]
    refine given_fail hR hs₁ _ ?_ ?_
    · intro h' s' step hfail
      exact .driveFailed hdrive hfail
    · exact fun request h' s' step hrequest hends => .closed hrequest hends
  | ok actions =>
    dsimp only
    unfold modifyProgress
    rw [Act.given_bind, given_update]
    have hcounted : (s₁.countActions actions).Sound := hs₁.congr rfl rfl
    refine given_closeIfRequested hR hcounted _ ?_ ?_
    · exact dueTail_spec hR hdrive hcounted
    · exact fun request h' s' step hrequest hends => .closed hrequest hends

end Swbt
