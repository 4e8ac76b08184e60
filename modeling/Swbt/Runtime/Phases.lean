import Swbt.Runtime.Path
/-!
# A step as a path

Every phase of a step follows moves and then lets the step go on, or closes
or fails the worker; `stepRuntime_spec` puts the phases together.
-/

set_option autoImplicit false

open Effects

namespace Swbt

variable {m : ControllerKind} {r : ReportingKind}

/-! ## Phases -/

/-- The last move before an exit, if it is not the end of the path itself. -/
inductive LastMove (h : Log m r) (s : Frame m r) : Log m r → Frame m r → Prop
  | none : LastMove h s h s
  | terminal {error : WorkerCoreError} {h' : Log m r} {s' : Frame m r} (hmove : Move h s (some error) h' s') :
      LastMove h s h' s'

/-- How a part of a step ends: the step goes on, or the worker closes, or a
terminal error fails it. -/
inductive PhaseEffect (h : Log m r) (s : Frame m r) : Log m r → Frame m r → Option WorkerStep → Prop
  | running {h' : Log m r} {s' : Frame m r} (hpath : Path h s h' s') (hsound : s'.Sound) : PhaseEffect h s h' s' none
  | closed {h₁ h₂ h' : Log m r} {s₁ s₂ s' : Frame m r} {request : ShutdownRequest} {t : Duration} {step : WorkerStep}
      (hpath : Path h s h₁ s₁) (hsound₁ : s₁.Sound) (hlast : LastMove h₁ s₁ h₂ s₂) (hsound : s₂.Sound)
      (hclose : CloseEffect request t (.call s₂ Op.now t :: .call s₂ Op.takeShutdown (some request) :: h₂) s₂ h' s'
        step) : PhaseEffect h s h' s' (some step)
  | failed {h₁ h₂ h' : Log m r} {s₁ s₂ s' : Frame m r} {error : WorkerCoreError} {step : WorkerStep}
      (hpath : Path h s h₁ s₁) (hsound₁ : s₁.Sound) (hmove : Move h₁ s₁ (some error) h₂ s₂) (hsound : s₂.Sound)
      (hfail : FailEffect error (.call s₂ Op.takeShutdown none :: h₂) s₂ h' s' step) : PhaseEffect h s h' s' (some step)

theorem PhaseEffect.after {h h₁ h' : Log m r} {s s₁ s' : Frame m r} {a : Option WorkerStep} (hpath : Path h s h₁ s₁)
    (he : PhaseEffect h₁ s₁ h' s' a) : PhaseEffect h s h' s' a := by
  cases he with
  | running hrest hsound => exact .running (hpath.trans hrest) hsound
  | closed hrest hsound₁ hlast hsound hclose => exact .closed (hpath.trans hrest) hsound₁ hlast hsound hclose
  | failed hrest hsound₁ hmove hsound hfail => exact .failed (hpath.trans hrest) hsound₁ hmove hsound hfail

theorem PhaseEffect.move {h h₁ h' : Log m r} {s s₁ s' : Frame m r} {a : Option WorkerStep} (hs : s.Sound)
    (hmove : Move h s none h₁ s₁) (he : PhaseEffect h₁ s₁ h' s' a) : PhaseEffect h s h' s' a :=
  he.after (.single hs hmove)

/-- Two phases in a row, the second only if the first lets the step go on. -/
theorem wp_phase {x : Worker m r (Option WorkerStep)} {f : Option WorkerStep → Worker m r (Option WorkerStep)}
    {h : Log m r} {s : Frame m r} (hx : Act.wp x h s (PhaseEffect h s))
    (hexit : ∀ step, f (some step) = pure (some step))
    (hgo : ∀ h' s', s'.Sound → Act.wp (f none) h' s' (PhaseEffect h' s')) :
    Act.wp (x >>= f) h s (PhaseEffect h s) := by
  rw [Act.wp_bind]
  refine Act.wp_mono hx ?_
  intro h' s' a hphase
  cases hphase with
  | running hpath hsound => exact Act.wp_mono (hgo h' s' hsound) fun _ _ _ he => he.after hpath
  | closed hpath hsound₁ hlast hsound hclose =>
    rw [hexit]
    exact .closed hpath hsound₁ hlast hsound hclose
  | failed hpath hsound₁ hmove hsound hfail =>
    rw [hexit]
    exact .failed hpath hsound₁ hmove hsound hfail

/-- The answers of `closeIfRequested`: no request, or the close it leads to. -/
theorem wp_closeIfRequested (h : Log m r) (s : Frame m r) (hs : s.Sound)
    (Q : Log m r → Frame m r → Option WorkerStep → Prop) (hnone : Q (.call s Op.takeShutdown none :: h) s none)
    (hclosed : ∀ request t h' s' step,
      CloseEffect request t (.call s Op.now t :: .call s Op.takeShutdown (some request) :: h) s h' s' step →
        Q h' s' (some step)) : Act.wp closeIfRequested h s Q := by
  unfold closeIfRequested
  rw [Act.wp_bind, wp_takeShutdown]
  intro request
  cases request with
  | none => exact hnone
  | some request =>
    simp only [Act.wp_bind, wp_now]
    intro t
    exact Act.wp_mono (close_spec request t _ s fun h => hs.unanswered (.inl h)) (hclosed request t)

theorem closeIfRequested_spec (h : Log m r) (s : Frame m r) (hs : s.Sound) :
    Act.wp closeIfRequested h s (PhaseEffect h s) := by
  refine wp_closeIfRequested h s hs _ ?_ ?_
  · exact .running (.single hs .unrequested) hs
  · intro request t h' s' step hclose
    exact .closed .refl hs .none hs hclose

/-- A phase that has come to `terminal`: a shutdown still goes before the failure. -/
theorem afterMove_spec {terminal : Option WorkerCoreError} {h h₁ : Log m r} {s s₁ : Frame m r} (hs : s.Sound)
    (hmove : Move h s terminal h₁ s₁) :
    Act.wp (do
      match ← closeIfRequested with
      | some exit => return some exit
      | none =>
        match terminal with
        | some error => return some (← fail error)
        | none => return none) h₁ s₁ (PhaseEffect h s) := by
  have hs₁ := hmove.sound hs
  rw [Act.wp_bind]
  cases terminal with
  | none =>
    refine Act.wp_mono (closeIfRequested_spec h₁ s₁ hs₁) ?_
    intro h' s' a he
    cases a with
    | some exit => exact he.move hs hmove
    | none => exact he.move hs hmove
  | some error =>
    refine wp_closeIfRequested h₁ s₁ hs₁ _ ?_ ?_
    · dsimp only
      rw [Act.wp_bind]
      refine Act.wp_mono (fail_spec error _ s₁ fun h => hs₁.unanswered (.inl h)) ?_
      intro h' s' step hfail
      exact .failed .refl hs hmove hs₁ hfail
    · intro request t h' s' step hclose
      exact .closed .refl hs (.terminal hmove) hs₁ hclose

theorem failOrClose_spec {error : WorkerCoreError} {h h₁ : Log m r} {s s₁ : Frame m r} (hs : s.Sound)
    (hmove : Move h s (some error) h₁ s₁) :
    Act.wp (failOrClose error) h₁ s₁ fun h' s' step => PhaseEffect h s h' s' (some step) := by
  have hs₁ := hmove.sound hs
  unfold failOrClose
  rw [Act.wp_bind]
  refine wp_closeIfRequested h₁ s₁ hs₁ _ ?_ ?_
  · refine Act.wp_mono (fail_spec error _ s₁ fun h => hs₁.unanswered (.inl h)) ?_
    intro h' s' step hfail
    exact .failed .refl hs hmove hs₁ hfail
  · intro request t h' s' step hclose
    exact .closed .refl hs (.terminal hmove) hs₁ hclose

theorem wp_settle (progress : WorkerCommandProgress) (h : Log m r) (s : Frame m r)
    (Q : Log m r → Frame m r → Unit → Prop)
    (hnone : (∃ result, progress = .complete result) → s.progress.commandResult = none)
    (hQ : Q h (s.settle progress) ()) : Act.wp (recordCommandProgress progress) h s Q := by
  cases progress with
  | pending => exact hQ
  | complete result => exact wp_answer result Q (hnone ⟨result, rfl⟩) hQ

theorem InputEffect.result {command : ReportingCommand m r} {t : Duration} {h h' : Log m r} {s s' : Frame m r} {progress : WorkerCommandProgress}
    (he : InputEffect command t h s h' s' progress) : s'.progress.commandResult = s.progress.commandResult := by
  cases he with
  | rejected herror => rfl
  | committed hr candidate => rfl
  | sent hr hready hsent => exact hsent.sameCommand.result
  | unsent hr hready hsent => exact hsent.sameCommand.result
  | pressedDirect hr hready hsent => exact hsent.sameCommand.result
  | pressedPeriodic hr hready hsent hpress => exact hsent.sameCommand.result
  | unpressed hr hready hsent hkind => exact hsent.sameCommand.result

theorem CommandEffect.result {h h' : Log m r} {s s' : Frame m r} {command : RuntimeCommand m r}
    {progress : WorkerCommandProgress} (he : CommandEffect h s command h' s' progress) :
    s'.progress.commandResult = s.progress.commandResult := by
  cases he with
  | input heffect => exact heffect.result
  | _ => rfl

theorem commandPhase_spec (h : Log m r) (s : Frame m r) (hs : s.Sound) (hresult : s.progress.commandResult = none) :
    Act.wp commandPhase h s (PhaseEffect h s) := by
  unfold commandPhase
  rw [Act.wp_bind, wp_frame]
  split
  · exact .running .refl hs
  · rename_i hidle
    rw [Bool.or_eq_true, not_or] at hidle
    have hcommand : s.connectionCommandPending = none := by simpa using hidle.1
    have htap : s.reporting.hasPending = false := by simpa using hidle.2
    rw [Act.wp_bind, wp_nextCommand]
    intro command
    cases command with
    | none => exact .running (.single hs (.noCommand hcommand htap)) hs
    | some command =>
      simp only [Act.wp_bind, modifyProgress, wp_update]
      refine Act.wp_mono (runCommand_spec command _ s.countCommand) ?_
      intro h' s' progress heffect
      have hmove := Move.command hcommand htap hresult heffect
      refine wp_settle _ _ _ _ (fun _ => heffect.result.trans hresult) ?_
      rw [← Act.wp_bind]
      exact afterMove_spec hs hmove

theorem drive_spec (h : Log m r) (s : Frame m r) (hs : s.Sound) : Act.wp drive h s (PhaseEffect h s) := by
  unfold drive
  simp only [Act.wp_bind, wp_now]
  intro t
  refine Act.wp_mono (driveConnection_spec t _ s hs) ?_
  intro h' s' result heffect
  have hmove := Move.drive heffect
  have hs' := hmove.sound hs
  cases result with
  | error error =>
    dsimp only
    rw [Act.wp_bind]
    exact failOrClose_spec hs hmove
  | ok actions =>
    simp only [Act.wp_bind, modifyProgress, wp_update]
    have hcount := @Move.progress _ _ h' s'
      { s'.progress with dueActions := s'.progress.dueActions + actions } rfl
    refine Act.wp_mono (closeIfRequested_spec _ _ (hcount.sound hs')) ?_
    intro _ _ _ he
    exact (he.move hs' hcount).move hs hmove

theorem topologyDrive_spec (topologyChanged : Bool) (h : Log m r) (s : Frame m r) (hs : s.Sound) :
    Act.wp (if topologyChanged then drive else pure none) h s (PhaseEffect h s) := by
  split
  · exact drive_spec h s hs
  · exact .running .refl hs

/-- What comes after one event without an error: a shutdown, a drive and the other events. -/
theorem afterEvent_spec {rest : List (Option SessionEvent)}
    (hrest : ∀ (h : Log m r) (s : Frame m r), s.Sound → Act.wp (handleEvents rest) h s (PhaseEffect h s))
    (topologyChanged : Bool) (h : Log m r) (s : Frame m r) (hs : s.Sound) :
    Act.wp (do
      match ← closeIfRequested with
      | some exit => return some exit
      | none =>
        match ← (if topologyChanged then drive else pure none) with
        | some exit => return some exit
        | none => handleEvents rest) h s (PhaseEffect h s) := by
  refine wp_phase (closeIfRequested_spec h s hs) (fun _ => rfl) ?_
  intro h' s' hs'
  exact wp_phase (topologyDrive_spec topologyChanged h' s' hs') (fun _ => rfl) hrest

theorem handleEvents_spec (events : List (Option SessionEvent)) (h : Log m r) (s : Frame m r) (hs : s.Sound) :
    Act.wp (handleEvents events) h s (PhaseEffect h s) := by
  induction events generalizing h s with
  | nil => exact .running .refl hs
  | cons event rest ih =>
    unfold handleEvents modifyProgress
    rw [Act.wp_bind, wp_update]
    have hcount := @Move.progress _ _ h s
      { s.progress with hciEvents := s.progress.hciEvents + 1 } rfl
    have hs₁ := hcount.sound hs
    cases event with
    | none =>
      dsimp only
      rw [Act.wp_bind, wp_processed, Act.wp_bind, Act.wp_pure]
      refine Act.wp_mono (afterEvent_spec ih false _ _ hs₁) ?_
      intro _ _ _ he
      exact (he.move hs₁ .untagged).move hs hcount
    | some event =>
      dsimp only
      rw [Act.wp_bind]
      refine Act.wp_mono (handleEvent_spec event _ _ hs₁) ?_
      intro h' s' outcome heffect
      have hmove := Move.event heffect
      cases outcome with
      | error error =>
        dsimp only
        rw [Act.wp_bind]
        exact Act.wp_mono (failOrClose_spec hs₁ hmove) fun _ _ _ he => he.move hs hcount
      | ok topologyChanged =>
        refine Act.wp_mono (afterEvent_spec ih topologyChanged h' s' (hmove.sound hs₁)) ?_
        intro _ _ _ he
        exact (he.move hs₁ hmove).move hs hcount

theorem markBudgetSpent_spec (remaining : Nat) (h : Log m r) (s : Frame m r) (hs : s.Sound)
    (hrest : ∀ (h : Log m r) (s : Frame m r), s.Sound → Act.wp (pollBatches remaining) h s (PhaseEffect h s)) :
    Act.wp (do
      if remaining = 0 then modifyProgress fun p => { p with immediate := true }
      pollBatches remaining) h s (PhaseEffect h s) := by
  split
  · have himmediate := @Move.progress _ _ h s { s.progress with immediate := true } rfl
    simp only [Act.wp_bind, modifyProgress, wp_update]
    exact Act.wp_mono (hrest _ _ (himmediate.sound hs)) fun _ _ _ he => he.move hs himmediate
  · exact hrest h s hs

theorem pollBatches_spec (remaining : Nat) (h : Log m r) (s : Frame m r) (hs : s.Sound) :
    Act.wp (pollBatches remaining) h s (PhaseEffect h s) := by
  induction remaining generalizing h s with
  | zero => exact .running .refl hs
  | succ remaining ih =>
    unfold pollBatches
    rw [Act.wp_bind, wp_poll]
    intro batch
    cases batch with
    | error error =>
      dsimp only
      rw [Act.wp_bind]
      exact failOrClose_spec hs .pollFailed
    | ok events =>
      have hpoll := @Move.polled _ _ h s events
      dsimp only
      split
      · exact .running (.single hs hpoll) hs
      · rw [Act.wp_bind, wp_frame]
        refine Act.wp_mono (wp_phase (handleEvents_spec _ _ s hs) (fun _ => rfl) ?_) fun _ _ _ he => he.move hs hpoll
        intro h' s' hs'
        exact markBudgetSpent_spec remaining h' s' hs' ih

theorem recordDueErrors_spec (errors : List WorkerOperationError) (terminal : Option WorkerCoreError) (h : Log m r)
    (s : Frame m r) (Q : Log m r → Frame m r → Option WorkerCoreError → Prop)
    (hQ : Q h (s.noteAll (errors.map fun error => (nonterminalOperationError error).1))
      (errors.foldl (fun terminal error => terminal <|> (nonterminalOperationError error).2) terminal)) :
    Act.wp (recordDueErrors terminal errors) h s Q := by
  induction errors generalizing terminal s with
  | nil =>
    have hnil : s.noteAll [] = s := by
      unfold Frame.noteAll
      rw [List.append_nil]
    rw [List.map_nil, hnil] at hQ
    exact hQ
  | cons error rest ih =>
    unfold recordDueErrors pushOperationError modifyProgress
    dsimp only
    rw [Act.wp_bind, wp_update]
    refine ih _ _ ?_
    unfold Frame.noteAll at hQ ⊢
    rw [List.map_cons, List.append_cons] at hQ
    exact hQ

theorem recordDueCompletion_spec (completion : Option WorkerCommandProgress) (h : Log m r) (s : Frame m r)
    (hnone : completion ≠ none → s.progress.commandResult = none)
    (Q : Log m r → Frame m r → Option WorkerCoreError → Prop)
    (hQ : Q h (s.settleDue completion) (completion.bind fun progress => (nonterminalCommandProgress progress).2)) :
    Act.wp (recordDueCompletion completion) h s Q := by
  cases completion with
  | none => exact hQ
  | some progress =>
    unfold recordDueCompletion
    dsimp only
    rw [Act.wp_bind]
    exact wp_settle _ h s _ (fun _ => hnone (by simp)) hQ

/-- Only a release completes a command, and its command has no result yet. -/
theorem DueEffect.unanswered {t : Duration} {h h' : Log m r} {s s' : Frame m r} {due : ReportingDue}
    (he : DueEffect t h s h' s' due) (hs : s.Sound) (hcompletion : due.completion ≠ none) :
    s'.progress.commandResult = none := by
  cases he with
  | released htap hdue hreleased =>
    have hpending : s.reporting.hasPending = true := by
      rw [Reporting.hasPending_eq, htap]
      rfl
    have hready := hs.coherent.of_tap hpending
    obtain ⟨-, hsame⟩ := hreleased.sound (Frame.setTap_none_sound hs (by rw [hready.lifecycle]; rfl)) hready.command
    exact hsame.result.trans (hs.unanswered (.inr hpending))
  | _ => exact absurd rfl hcompletion

theorem duePhase_spec (h : Log m r) (s : Frame m r) (hs : s.Sound) : Act.wp duePhase h s (PhaseEffect h s) := by
  unfold duePhase
  rw [Act.wp_bind, wp_frame]
  split
  · rename_i hallowed
    have hallowed : s.DueAllowed := by
      simpa only [WorkerCore.DueAllowed, Bool.or_eq_true, Bool.and_eq_true, decide_eq_true_eq] using hallowed
    unfold modifyProgress
    simp only [Act.wp_bind, wp_now, wp_update]
    intro t
    refine Act.wp_mono (runDue_spec t _ s) ?_
    intro h' s' due heffect
    have hmove := Move.due hallowed heffect
    have hs' := hmove.sound hs
    refine recordDueCompletion_spec _ _ (s'.countDue due) (heffect.unanswered hs) _ ?_
    refine recordDueErrors_spec _ _ _ _ _ ?_
    rw [← Act.wp_bind]
    exact afterMove_spec hs hmove
  · exact .running .refl hs

/-! ## Steps -/

/-- The frame at the end of a step that goes on. -/
def Frame.finish (s : Frame m r) : Frame m r :=
  { s with progress := { s.progress with nextDeadline := minimumDeadline s.progress.nextDeadline s.nextDeadline } }

inductive StepEffect (h : Log m r) (s : Frame m r) : Log m r → Frame m r → WorkerStep → Prop
  | continued {h' : Log m r} {s' : Frame m r} (hpath : Path h s.fresh h' s') (hsound : s'.Sound) :
      StepEffect h s h' s'.finish (.continue s'.finish.progress)
  | closed {h₁ h₂ h' : Log m r} {s₁ s₂ s' : Frame m r} {request : ShutdownRequest} {t : Duration} {step : WorkerStep}
      (hpath : Path h s.fresh h₁ s₁) (hsound₁ : s₁.Sound) (hlast : LastMove h₁ s₁ h₂ s₂) (hsound : s₂.Sound)
      (hclose : CloseEffect request t (.call s₂ Op.now t :: .call s₂ Op.takeShutdown (some request) :: h₂) s₂ h' s'
        step) : StepEffect h s h' s' step
  | failed {h₁ h₂ h' : Log m r} {s₁ s₂ s' : Frame m r} {error : WorkerCoreError} {step : WorkerStep}
      (hpath : Path h s.fresh h₁ s₁) (hsound₁ : s₁.Sound) (hmove : Move h₁ s₁ (some error) h₂ s₂) (hsound : s₂.Sound)
      (hfail : FailEffect error (.call s₂ Op.takeShutdown none :: h₂) s₂ h' s' step) : StepEffect h s h' s' step

/-- A phase, then the rest of the step. -/
theorem wp_step {x : Worker m r (Option WorkerStep)} {f : Option WorkerStep → Worker m r WorkerStep} {h h₀ : Log m r}
    {s s₀ : Frame m r} (hpath : Path h₀ s₀.fresh h s) (hx : Act.wp x h s (PhaseEffect h s))
    (hexit : ∀ step, f (some step) = pure step)
    (hgo : ∀ h' s', Path h₀ s₀.fresh h' s' → s'.Sound → Act.wp (f none) h' s' (StepEffect h₀ s₀)) :
    Act.wp (x >>= f) h s (StepEffect h₀ s₀) := by
  rw [Act.wp_bind]
  refine Act.wp_mono hx ?_
  intro h' s' a hphase
  cases hphase with
  | running hrest hsound => exact hgo h' s' (hpath.trans hrest) hsound
  | closed hrest hsound₁ hlast hsound hclose =>
    rw [hexit]
    exact .closed (hpath.trans hrest) hsound₁ hlast hsound hclose
  | failed hrest hsound₁ hmove hsound hfail =>
    rw [hexit]
    exact .failed (hpath.trans hrest) hsound₁ hmove hsound hfail

theorem markImmediate_spec (h : Log m r) (s : Frame m r) (hs : s.Sound) :
    Act.wp markImmediate h s fun h' s' _ => Path h s h' s' ∧ s'.Sound := by
  unfold markImmediate modifyProgress
  rw [Act.wp_bind, wp_frame]
  have hmove := @Move.progress _ _ h s { s.progress with immediate := true } rfl
  split
  · exact ⟨.single hs hmove, hmove.sound hs⟩
  · exact ⟨.refl, hs⟩

theorem stepAfterCommand_spec {h₀ h : Log m r} {s₀ s : Frame m r} (hpath : Path h₀ s₀.fresh h s) (hs : s.Sound) :
    Act.wp stepAfterCommand h s (StepEffect h₀ s₀) := by
  unfold stepAfterCommand
  rw [Act.wp_bind]
  refine Act.wp_mono (markImmediate_spec h s hs) ?_
  rintro h₁ s₁ - ⟨hmark, hs₁⟩
  rw [Act.wp_bind, wp_frame]
  refine wp_step (hpath.trans hmark) (pollBatches_spec _ h₁ s₁ hs₁) (fun _ => rfl) ?_
  intro h₂ s₂ hpath₂ hs₂
  refine wp_step hpath₂ (drive_spec h₂ s₂ hs₂) (fun _ => rfl) ?_
  intro h₃ s₃ hpath₃ hs₃
  refine wp_step hpath₃ (duePhase_spec h₃ s₃ hs₃) (fun _ => rfl) ?_
  intro h₄ s₄ hpath₄ hs₄
  exact .continued hpath₄ hs₄

/-- A step follows moves through sound frames, and then goes on, closes or fails. -/
theorem stepRuntime_spec (h : Log m r) (s : Frame m r) (hs : Coherent s.toWorkerCore) :
    Act.wp stepRuntime h s (StepEffect h s) := by
  have hfresh : s.fresh.Sound := ⟨hs, fun _ => rfl⟩
  unfold stepRuntime modifyProgress
  rw [Act.wp_bind, wp_update]
  unfold closeIfRequested
  simp only [Act.wp_bind, wp_takeShutdown]
  intro request
  cases request with
  | some request =>
    simp only [Act.wp_bind, wp_now]
    intro t
    refine Act.wp_mono (close_spec request t _ s.fresh fun h => hfresh.unanswered (.inl h)) ?_
    intro h' s' step hclose
    exact .closed .refl hfresh .none hfresh hclose
  | none =>
    refine wp_step (.single hfresh .unrequested) (commandPhase_spec _ s.fresh hfresh rfl) (fun _ => rfl) ?_
    intro h₁ s₁ hpath₁ hs₁
    exact stepAfterCommand_spec hpath₁ hs₁

end Swbt
