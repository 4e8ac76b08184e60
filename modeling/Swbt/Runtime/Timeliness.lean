import Swbt.Runtime.Sleeping
import Swbt.Runtime.Wakeup
/-!
# Commands are answered in time

A connection command waits until its deadline, a tap until its release. No step
that goes on leaves either waiting when all its readings of the clock are past
that time, and none reports to wake up later than that.
-/

set_option autoImplicit false

open Effects

namespace Swbt

variable {m : ControllerKind} {r : ReportingKind} {h h₁ h' : Log m r} {s s₁ s' : Frame m r} {t limit : Duration}

/-! ## Limits -/

/-- A command in flight is to be answered by `limit`. -/
inductive Awaits (h : Log m r) (s : Frame m r) : Duration → Prop
  | connection {limit : Duration} (hpending : s.connectionCommandPending.isSome = true)
      (hlimit : h.operationDeadline = some limit) : Awaits h s limit
  | tap {tap : Tap m} (htap : s.reporting.tap = some tap) : Awaits h s tap.releaseAt

/-- The clock was read before `limit` since `h`. -/
def ReadBefore (limit : Duration) (h h' : Log m r) : Prop :=
  ∃ f h₀ t, Within h (.call f Op.now t) h₀ h' ∧ t < limit

theorem ReadBefore.within {h₂ : Log m r} (hread : ReadBefore limit h₁ h₂) (hbefore : h <:+ h₁) (hafter : h₂ <:+ h') :
    ReadBefore limit h h' := by
  obtain ⟨f, h₀, t, ⟨hin, hsince⟩, hlt⟩ := hread
  exact ⟨f, h₀, t, ⟨hin.trans hafter, hbefore.trans hsince⟩, hlt⟩

/-- No work and no tap is left that a reading since `h` has not preceded. -/
structure Timely (h h' : Log m r) (s : Frame m r) : Prop where
  connection : ∀ work, s.connection = some work → ReadBefore work.readiness.operationDeadline h h'
  tap : ∀ tap, s.reporting.tap = some tap → ReadBefore tap.releaseAt h h'

/-! ## Drives -/

theorem DriveEffect.before {actions : Nat} (he : DriveEffect t h s h' s' (.ok actions)) (hs : s.Sound)
    {work : ConnectionWork} (hwork : s'.connection = some work) : t < work.readiness.operationDeadline := by
  -- Only a pending evaluation leaves work behind.
  cases he with
  | idle hnone =>
    rw [hnone] at hwork
    cases hwork
  | aborted hbefore hinactive =>
    have hopen := abort_open (s := s.takeConnection) (hs.coherent.of_connection hbefore).lifecycle rfl
    rw [(hopen _).connection] at hwork
    cases hwork
  | pending hbefore hactive hhandshake hevaluated hresult =>
    cases hwork
    rename_i evaluation _ _ _
    change t < evaluation.readiness.operationDeadline
    rw [(hevaluated.waits hresult).1, hhandshake.readiness]
    exact ReadinessGate.before_deadline hactive
  | ready hbefore hactive hhandshake hevaluated hresult =>
    obtain ⟨hsame₁, -, hwork₁, -⟩ := hhandshake.sameControl (hs.coherent.of_connection hbefore).work
    obtain ⟨hsame₂, -, -, -⟩ := hevaluated.sameControl hwork₁
    rename_i s₂
    rw [(s₂.markReady.complete_keeps _).2.2.2.2.2.2.2.trans (hsame₁.trans hsame₂).connection] at hwork
    cases hwork
  | evaluationFailed hbefore hactive hhandshake hevaluated hresult =>
    have hconnecting := hs.coherent.of_connection hbefore
    obtain ⟨hsame₁, -, hwork₁, -⟩ := hhandshake.sameControl hconnecting.work
    obtain ⟨hsame₂, -, -, -⟩ := hevaluated.sameControl hwork₁
    have hsame := hsame₁.trans hsame₂
    rw [(abort_open (hsame.lifecycle.trans hconnecting.lifecycle) hsame.connection _).connection] at hwork
    cases hwork

theorem ReadBefore.now {f : Frame m r} (hlt : t < limit) (hsuffix : .call f Op.now t :: h <:+ h') :
    ReadBefore limit h h' := ⟨f, h, t, ⟨hsuffix, List.suffix_refl _⟩, hlt⟩

/-- A drive that lets the step go on has read the clock before the deadline of the work it leaves. -/
theorem drive_before (h : Log m r) (hs : s.Sound) : Act.wp drive h s fun h' s' exit => exit = none →
    s'.Sound ∧ h <:+ h' ∧ ∀ work, s'.connection = some work → ReadBefore work.readiness.operationDeadline h h' := by
  unfold drive
  simp only [Act.wp_bind, wp_now]
  intro t
  refine Act.wp_mono (Act.wp_and (driveConnection_spec t _ s hs) (Prog.wp_suffix _ _)) ?_
  rintro h₁ s₁ result ⟨heffect, hread⟩
  have hmove := Move.drive heffect
  cases result with
  | error error => exact wp_ends fun _ _ _ hnone => absurd hnone (Option.some_ne_none _)
  | ok actions =>
    simp only [Act.wp_bind, modifyProgress, wp_update]
    have hcount := @Move.progress _ _ h₁ s₁ { s₁.progress with dueActions := s₁.progress.dueActions + actions } rfl
    have hs₁ := hcount.sound (hmove.sound hs)
    refine wp_closeIfRequested h₁ _ hs₁ _ ?_ fun _ _ _ _ _ _ hnone => absurd hnone (Option.some_ne_none _)
    intro _
    refine ⟨hs₁, hmove.suffix.trans (List.suffix_cons _ _), ?_⟩
    intro work hwork
    exact .now (heffect.before hs hwork) (hread.trans (List.suffix_cons _ _))

/-! ## Releases -/

/-- A tap whose time has come is released. -/
theorem runDue_releases {tap : Tap m} (htap : s.reporting.tap = some tap) (hdue : tap.releaseAt ≤ t) :
    Act.wp (Reporting.runDue t) h s fun h' s' _ => ∃ result, Released tap t h (s.setTap none) h' s' result := by
  cases r with
  | periodic =>
    change Act.wp (Periodic.runDue t) h s _
    unfold Periodic.runDue
    rw [Act.wp_bind, wp_frame]
    rw [Frame.periodicTap_eq] at htap
    obtain ⟨pending, hpending, rfl⟩ := Option.map_eq_some_iff.1 htap
    simp only [hpending, Option.any_some, decide_eq_true_eq]
    rw [if_pos hdue]
    unfold Periodic.runRelease
    simp only [Act.wp_bind, wp_update, Frame.withPeriodic_noTap]
    refine Act.wp_mono (finishPeriodic_spec pending.tap pending.releaseAt t h (s.setTap none)) ?_
    rintro h' s' (error | ⟨⟩) hreleased
    · exact ⟨_, hreleased⟩
    · exact ⟨_, hreleased⟩
  | direct =>
    change Act.wp (Direct.runDue t) h s _
    unfold Direct.runDue
    rw [Act.wp_bind, wp_frame]
    rw [Frame.directTap_eq] at htap
    obtain ⟨pending, hpending, rfl⟩ := Option.map_eq_some_iff.1 htap
    simp only [hpending]
    rw [if_neg (not_lt.2 hdue)]
    simp only [Act.wp_bind, wp_update, Frame.withDirect_noTap]
    refine Act.wp_mono (finishDirect_spec pending t h (s.setTap none)) ?_
    rintro h' s' result ⟨answer, rfl, hsent⟩
    have hreleased := @Released.direct _ _ ⟨pending.released, pending.releaseAt, none⟩ _ _ _ _ _ _ rfl hsent
    cases answer with
    | error error => exact ⟨_, hreleased⟩
    | ok accepted => exact ⟨_, hreleased⟩

theorem Released.reporting {tap : Tap m} {result : CommandResult} (hreleased : Released tap t h s h' s' result) :
    s'.reporting = s.reporting := by
  cases hreleased with
  | periodic hr hsent => exact hsent.sameCommand.reporting
  | direct hr hsent => exact hsent.sameCommand.reporting

theorem Frame.tap_setTap_none (s : Frame m r) : (s.setTap none).reporting.tap = none := by
  rw [← Option.not_isSome_iff_eq_none, ← Reporting.hasPending_eq, Frame.setTap, Reporting.hasPending_withTap]
  exact Bool.false_ne_true

theorem DueEffect.tap {due : ReportingDue} (he : DueEffect t h s h' s' due) :
    s'.reporting.tap = s.reporting.tap ∨ s'.reporting.tap = none := by
  cases he with
  | quiet htap hpolicy => exact .inl rfl
  | failed hpolicy herror => exact .inl rfl
  | backpressured htap hpolicy hticks => exact .inl (Reporting.tap_withPolicy _ _)
  | automatic hpolicy hticks hsent herrors =>
    rw [Sent.reporting hsent]
    exact .inl (Reporting.tap_withPolicy _ _)
  | released htap hdue hreleased =>
    rw [hreleased.reporting]
    exact .inr s.tap_setTap_none

/-- What falls due at `t` leaves no tap whose time has come. -/
theorem runDue_before (t : Duration) (h : Log m r) (s : Frame m r) : Act.wp (Reporting.runDue t) h s fun h' s' due =>
    DueEffect t h s h' s' due ∧ ∀ tap, s'.reporting.tap = some tap → t < tap.releaseAt := by
  by_cases hover : ∃ tap, s.reporting.tap = some tap ∧ tap.releaseAt ≤ t
  · obtain ⟨tap, htap, hdue⟩ := hover
    refine Act.wp_mono (Act.wp_and (runDue_spec t h s) (runDue_releases htap hdue)) ?_
    rintro h' s' due ⟨heffect, result, hreleased⟩
    refine ⟨heffect, ?_⟩
    intro other hother
    rw [hreleased.reporting, s.tap_setTap_none] at hother
    cases hother
  · refine Act.wp_mono (runDue_spec t h s) ?_
    intro h' s' due heffect
    refine ⟨heffect, ?_⟩
    intro tap htap
    by_contra hlate
    rcases heffect.tap with hkept | hnone
    · exact hover ⟨tap, hkept.symm.trans htap, not_lt.1 hlate⟩
    · rw [hnone] at htap
      cases htap

/-- A due phase that lets the step go on has read the clock before the time of the tap it leaves. -/
theorem duePhase_before (h : Log m r) (hs : s.Sound) : Act.wp duePhase h s fun h' s' exit => exit = none →
    s'.Sound ∧ h <:+ h' ∧ s'.connection = s.connection ∧
      ∀ tap, s'.reporting.tap = some tap → ReadBefore tap.releaseAt h h' := by
  unfold duePhase
  rw [Act.wp_bind, wp_frame]
  split
  · rename_i hallowed
    have hallowed : s.DueAllowed := by
      simpa only [WorkerCore.DueAllowed, Bool.or_eq_true, Bool.and_eq_true, decide_eq_true_eq] using hallowed
    unfold modifyProgress
    simp only [Act.wp_bind, wp_now, wp_update]
    intro t
    refine Act.wp_mono (Act.wp_and (runDue_before t _ s) (Prog.wp_suffix _ _)) ?_
    rintro h₁ s₁ due ⟨⟨heffect, hbefore⟩, hread⟩
    have hmove := Move.due hallowed heffect
    have hs₁ := hmove.sound hs
    refine recordDueCompletion_spec _ _ (s₁.countDue due) (heffect.unanswered hs) _ ?_
    refine recordDueErrors_spec _ _ _ _ _ ?_
    refine wp_closeIfRequested _ _ hs₁ _ ?_ fun _ _ _ _ _ _ hnone => absurd hnone (Option.some_ne_none _)
    dsimp only
    split
    · exact wp_ends fun _ _ _ hnone => absurd hnone (Option.some_ne_none _)
    · refine fun _ => ⟨hs₁, hmove.suffix.trans (List.suffix_cons _ _), heffect.connection, ?_⟩
      intro tap htap
      rw [congrArg WorkerCore.reporting (s₁.recordDue_keeps due)] at htap
      exact .now (hbefore tap htap) (hread.trans (List.suffix_cons _ _))
  · rename_i hskip
    refine fun _ => ⟨hs, List.suffix_refl _, rfl, ?_⟩
    -- Only a ready worker has a tap, and its due phase is not skipped.
    intro tap htap
    simp [(hs.idle_of_tap htap).2.1] at hskip

/-! ## Steps -/

/-- What the end of a step that goes on says about what it leaves. -/
structure Timed (h₀ h : Log m r) (s : Frame m r) (progress : StepProgress) : Prop where
  timely : Timely h₀ h s
  reported : ∀ t, Later t progress.nextDeadline → Later t s.nextDeadline

theorem stepAfterCommand_timed {h₀ : Log m r} (hs : s.Sound) (hsuffix : h₀ <:+ h) :
    Act.wp stepAfterCommand h s (OnContinue (Timed h₀)) := by
  unfold stepAfterCommand
  rw [Act.wp_bind]
  refine Act.wp_mono (markImmediate_looks hs) ?_
  rintro h s₁ - ⟨rfl, hs₁, -⟩
  rw [Act.wp_bind, wp_frame]
  refine wp_onContinue (pollBatches_spec _ h s₁ hs₁) (pollBatches_looks _ h s₁ hs₁) (fun _ => rfl) ?_
  rintro h₂ s₂ ⟨hrouses₂, -⟩
  obtain ⟨hs₂, -⟩ := hrouses₂.goes rfl
  refine wp_onContinue (drive_spec h₂ s₂ hs₂) (drive_before h₂ hs₂) (fun _ => rfl) ?_
  intro h₃ s₃ hdriven
  obtain ⟨hs₃, hsuffix₃, hwork⟩ := hdriven rfl
  refine wp_onContinue (duePhase_spec h₃ s₃ hs₃) (duePhase_before h₃ hs₃) (fun _ => rfl) ?_
  intro h₄ s₄ hended
  obtain ⟨-, hsuffix₄, hsame, htap⟩ := hended rfl
  have hbefore := hsuffix.trans hrouses₂.untaken.suffix
  rintro progress ⟨⟩
  refine ⟨⟨?_, ?_⟩, ?_⟩
  · intro work hsome
    exact (hwork work (hsame.symm.trans hsome)).within hbefore hsuffix₄
  · intro tap hsome
    exact (htap tap hsome).within (hbefore.trans hsuffix₃) (List.suffix_refl _)
  · intro t hlater
    exact ((later_minimum t _ _).1 hlater).2

theorem stepRuntime_timed (hs : Coherent s.toWorkerCore) : Act.wp stepRuntime h s (OnContinue (Timed h)) := by
  have hfresh : s.fresh.Sound := ⟨hs, fun _ => rfl⟩
  unfold stepRuntime modifyProgress
  rw [Act.wp_bind, wp_update]
  refine wp_onContinue (R := fun h' s' exit => exit = none → h <:+ h' ∧ s' = s.fresh)
    (closeIfRequested_spec h s.fresh hfresh) ?_ (fun _ => rfl) ?_
  · refine wp_closeIfRequested h s.fresh hfresh _ ?_ fun _ _ _ _ _ _ hnone => absurd hnone (Option.some_ne_none _)
    exact fun _ => ⟨List.suffix_cons _ _, rfl⟩
  intro h₁ s₁ hunrequested
  obtain ⟨hsuffix₁, rfl⟩ := hunrequested rfl
  refine wp_onContinue (commandPhase_spec _ s.fresh hfresh rfl) (commandPhase_looks hfresh rfl) (fun _ => rfl) ?_
  intro h₂ s₂ hlooks
  obtain ⟨hs₂, hsuffix₂, -⟩ := hlooks rfl
  exact stepAfterCommand_timed hs₂ (hsuffix₁.trans hsuffix₂)

theorem Awaits.left (hawaits : Awaits h s limit) (hrun : Run h s) :
    (∃ work, s.connection = some work ∧ work.readiness.operationDeadline = limit) ∨
      ∃ tap, s.reporting.tap = some tap ∧ tap.releaseAt = limit := by
  cases hawaits with
  | tap htap => exact .inr ⟨_, htap, rfl⟩
  | connection hpending hlimit =>
    obtain ⟨work, hwork, -⟩ := hrun.coherent.of_command hpending
    have hshown := hrun.evident.1.work work hwork
    exact .inl ⟨work, hwork, Option.some.inj (hshown.deadline.symm.trans hlimit)⟩

/-- A command in flight after a step that goes on was not yet due at a reading of that step, and the step reports to
wake up by its time. -/
theorem answered_in_time (hrun : Run h s) {progress : StepProgress}
    (hexec : Prog.Exec (stepRuntime s) h h' s' (.continue progress)) (hawaits : Awaits h' s' limit) :
    ReadBefore limit h h' ∧ ∃ deadline, progress.nextDeadline = some deadline ∧ deadline ≤ limit := by
  have hrun' := hrun.step hexec
  obtain ⟨htimely, hreported⟩ := hexec.post (stepRuntime_timed hrun.coherent) progress rfl
  have hnow : ReadBefore limit h h' ∧ ¬ Later limit s'.nextDeadline := by
    rw [later_nextDeadline, later_reporting]
    rcases hawaits.left hrun' with ⟨work, hwork, rfl⟩ | ⟨tap, htap, rfl⟩
    · exact ⟨htimely.connection work hwork, fun hlater => lt_irrefl _ (hlater.2 work hwork).1⟩
    · exact ⟨htimely.tap tap htap, fun hlater => lt_irrefl _ (hlater.1.1 tap htap)⟩
  refine ⟨hnow.1, ?_⟩
  by_contra hnone
  refine hnow.2 (hreported limit ?_)
  intro deadline hdeadline
  exact not_le.1 fun hle => hnone ⟨deadline, hdeadline, hle⟩

/-- The step in which the sample worker presses a tap. -/
def samplePress : Log .pro .direct × Frame .pro .direct × WorkerStep :=
  playStep (scripted .ZERO (fun _ => some (.input (tapCommand .direct [sampleButton] samplePeriod))) fun _ => []) sampleReady

theorem samplePress_exec : Prog.Exec (stepRuntime sampleReady.2) sampleReady.1 samplePress.1 samplePress.2.1
    samplePress.2.2 := by
  unfold samplePress
  exact playStep_exec _ _

theorem answered_in_time_pressed : ∃ tap : Tap .pro, samplePress.2.1.reporting.tap = some tap ∧
    ReadBefore tap.releaseAt sampleReady.1 samplePress.1 := by
  have hpending : samplePress.2.1.reporting.tap.isSome = true := by decide +kernel
  have hgoes : samplePress.2.2.goesOn = true := by decide +kernel
  obtain ⟨tap, htap⟩ := Option.isSome_iff_exists.1 hpending
  have hexec := samplePress_exec
  rw [WorkerStep.goesOn_eq hgoes] at hexec
  exact ⟨tap, htap, (answered_in_time sampleReady_run hexec (.tap htap)).1⟩

end Swbt
