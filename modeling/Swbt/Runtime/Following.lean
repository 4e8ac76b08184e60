import Swbt.Runtime.Pad
import Swbt.Runtime.Readiness
import Swbt.Runtime.Wakeup
/-!
# Workers follow the pad

Whatever the transport, the clock and the other threads do, the answers of a
worker are answers of the pad to the same commands in the same order, and its
input is the pad's.
-/

set_option autoImplicit false

open Effects

namespace Swbt

variable {m : ControllerKind} {r : ReportingKind} {h h₁ h' : Log m r} {s s₁ s' : Frame m r} {results : List CommandResult}

/-- The worker has come where the pad is after the commands it has taken, with these results, the latest first. -/
abbrev Log.Follows (h : Log m r) (results : List CommandResult) (s : Frame m r) : Prop :=
  (pad m r).Follows Pad.new Pad.Rests Pad.Serves h.commands results s

/-! ## Parts of a step -/

theorem Log.Follows.shifts (hfollows : h.Follows results s) (hs : s.Sound) (hshift : PadShift s s')
    (hsame : h'.commands = h.commands) : h'.Follows results s' := by
  unfold Log.Follows
  rw [hsame]
  refine hfollows.step ?_ ?_
  · exact fun pad hrests => hrests.shifts hshift
  · exact fun pad command hserves => hserves.shifts hs hshift

/-- What takes no command keeps a worker with the pad. -/
theorem Log.Follows.path (hfollows : h.Follows results s) (hpath : Path h s h' s') (huntaken : Adds Untaken h h') :
    h'.Follows results s' := by
  induction hpath with
  | refl => exact hfollows
  | move hpath hsound hmove ih =>
    obtain ⟨hbefore, hlast⟩ := Adds.parts huntaken hpath.suffix hmove.suffix
    exact (ih hbefore).shifts hsound (hmove.shifts_on hsound hlast) (Adds.commands hlast)

theorem PhaseEffect.path (he : PhaseEffect h s h' s' none) : Path h s h' s' ∧ s'.Sound := by
  cases he with
  | running hpath hsound => exact ⟨hpath, hsound⟩

/-- The command phase takes a command of a worker at rest, or leaves the worker as it is. -/
theorem commandPhase_serves (hs : s.Sound) (hresult : s.progress.commandResult = none) :
    Act.wp commandPhase h s fun (h' : Log m r) s' exit => exit = none →
      s'.Sound ∧ (h'.commands = h.commands ∧ s' = s ∨
        ∃ command, ¬ s.Engaged ∧ h'.commands = command :: h.commands ∧ s.pad.Serves command s') := by
  unfold commandPhase
  rw [Act.wp_bind, wp_frame]
  split
  · exact fun _ => ⟨hs, .inl ⟨rfl, rfl⟩⟩
  · rename_i hidle
    rw [Bool.or_eq_true, not_or] at hidle
    have hcommand : s.connectionCommandPending = none := by simpa using hidle.1
    have hpending : s.reporting.hasPending = false := by simpa using hidle.2
    have htap := hpending
    rw [Reporting.hasPending_eq, Option.isSome_eq_false_iff, Option.isNone_iff_eq_none] at htap
    rw [Act.wp_bind, wp_nextCommand]
    intro command
    cases command with
    | none => exact fun _ => ⟨hs, .inl ⟨rfl, rfl⟩⟩
    | some command =>
      simp only [Act.wp_bind, modifyProgress, wp_update]
      have hcounted : s.countCommand.Sound := ⟨hs.coherent, hs.unanswered⟩
      refine Act.wp_mono (Act.wp_and (runCommand_spec command _ s.countCommand) (runCommand_judges command _ hcounted)) ?_
      rintro h' s' progress ⟨heffect, hjudged⟩
      have hmove := Move.command hcommand hpending hresult heffect
      have hs' := hmove.sound hs
      refine wp_settle _ _ _ _ (fun _ => heffect.result.trans hresult) ?_
      refine wp_closeIfRequested _ _ hs' _ ?_ fun _ _ _ _ _ _ hnone => absurd hnone (Option.some_ne_none _)
      cases hterminal : (nonterminalCommandProgress progress).2 with
      | some error => exact wp_ends fun _ _ _ hnone => absurd hnone (Option.some_ne_none _)
      | none =>
        have hserves := CommandEffect.serves (s := s.countCommand) hcounted heffect hjudged hcommand htap hterminal
        refine fun _ => ⟨hs', .inr ⟨command, ?_, ?_, hserves⟩⟩
        · rintro (hsome | hsome | hsome)
          · rw [hcommand] at hsome
            cases hsome
          · exact hsome htap
          · exact hsome hresult
        · exact Adds.commands (Adds.untaken heffect.plain)

/-- Where the worker is with the pad after a step: one that goes on leaves it there, and one that fails may still
answer a command well, as the pad does. -/
structure StepFollows (results : List CommandResult) (h' : Log m r) (s' : Frame m r) (step : WorkerStep) : Prop where
  goes : ∀ progress, step = .continue progress → h'.Follows results s'
  fails : ∀ error progress, step = .failed error progress → progress.commandResult = some (.ok ()) →
    ∃ s₁, h'.Follows (.ok () :: results) s₁

/-- A worker that closes neither goes on nor fails. -/
theorem CloseEffect.follows {request : ShutdownRequest} {t : Duration} {step : WorkerStep}
    (hclose : CloseEffect request t h s h' s' step) : StepFollows results h₁ s₁ step := by
  cases hclose with
  | closed hcleaned =>
    refine ⟨?_, ?_⟩
    · rintro progress ⟨⟩
    · rintro error progress ⟨⟩

theorem reverse_toList {α : Type} (a : Option α) : a.toList.reverse = a.toList := by
  cases a with
  | none => rfl
  | some a => rfl

/-- The answer that a frame holds is delivered. -/
theorem Log.Follows.deliver (hfollows : h.Follows results s) (hs : s.Unanswered) :
    h.Follows (s.progress.commandResult.toList ++ results) s.fresh := by
  cases hresult : s.progress.commandResult with
  | none =>
    refine hfollows.step ?_ ?_
    · rintro pad ⟨rfl, hfree⟩
      exact ⟨s.pad, .refl, rfl, fun hengaged => hfree ((Frame.fresh_engaged_iff hresult).1 hengaged)⟩
    · intro pad command hserves
      cases hserves with
      | connecting hopen hcommand hnew => exact .connecting hopen hcommand hnew
      | tapping hready hplan htap hreleased hinput hfirst => exact .tapping hready hplan htap hreleased hinput hfirst
      | answered hsome hcommand htap hanswers hdrifted => cases hresult.symm.trans hsome
  | some result =>
    have hsome : s.progress.commandResult ≠ none := by
      rw [hresult]
      exact Option.some_ne_none _
    refine hfollows.answer ?_ ?_
    · rintro pad ⟨-, hfree⟩
      exact hfree (.inr (.inr hsome))
    · intro pad command hserves
      cases hserves with
      | connecting hopen hcommand hnew => exact absurd (hs (.inl (by rw [hcommand]; rfl))) hsome
      | tapping hready hplan htap hreleased hinput hfirst =>
        refine absurd (hs (.inr ?_)) hsome
        rw [Reporting.hasPending_eq, htap]
        rfl
      | answered hsome' hcommand htap hanswers hdrifted =>
        cases hresult.symm.trans hsome'
        exact ⟨_, s.pad, hanswers, hdrifted, rfl, hs.fresh hsome⟩

/-- A part of a step that takes no command ends it with the pad. -/
theorem PhaseEffect.follows {step : WorkerStep} (he : PhaseEffect h s h' s' (some step)) (huntaken : Adds Untaken h h')
    (hfollows : h.Follows results s) : StepFollows results h' s' step := by
  generalize hexit : some step = exit at he
  cases he with
  | running hpath hsound => cases hexit
  | closed hpath hsound₁ hlast hsound hclose =>
    cases hexit
    exact hclose.follows
  | failed hpath hsound₁ hmove hsound hfail =>
    rename_i h₁ h₂ s₁ s₂ error step'
    cases hexit
    refine ⟨?_, ?_⟩
    · rintro progress rfl
      cases hfail
    · rintro error' progress rfl hok
      have hresult := hfail.unsuccessful hok
      have hsuffix : h₂ <:+ h' := by
        cases hfail
        exact (List.suffix_cons _ _).trans (List.suffix_cons _ _)
      obtain ⟨huntaken₂, hlater⟩ := Adds.parts huntaken (hpath.suffix.trans hmove.suffix) hsuffix
      obtain ⟨hbefore, hlast⟩ := Adds.parts huntaken₂ hpath.suffix hmove.suffix
      rcases hmove.shifts hsound₁ hlast with hshift | ⟨-, refusal, hrefused⟩
      · -- The answer was there before the failure, which has only ended the session.
        have hfollows₂ := (hfollows.path hpath hbefore).shifts hsound₁ hshift (Adds.commands hlast)
        have hanswered := hfollows₂.deliver hsound.unanswered
        rw [hresult] at hanswered
        refine ⟨s₂.fresh, ?_⟩
        unfold Log.Follows
        rw [Adds.commands hlater]
        exact hanswered
      · cases hresult.symm.trans hrefused

/-- A part of a step that takes no command, then the rest of the step. -/
theorem wp_follows {x : Worker m r (Option WorkerStep)} {f : Option WorkerStep → Worker m r WorkerStep}
    (hphase : Act.wp x h s (PhaseEffect h s)) (hrouses : Act.wp x h s (Rouses h s)) (hexit : ∀ step, f (some step) = pure step)
    (hfollows : h.Follows results s)
    (hgo : ∀ (h' : Log m r) (s' : Frame m r), s'.Sound → h'.Follows results s' → Act.wp (f none) h' s' (StepFollows results)) :
    Act.wp (x >>= f) h s (StepFollows results) := by
  rw [Act.wp_bind]
  refine Act.wp_mono (Act.wp_and hphase hrouses) ?_
  rintro h' s' exit ⟨heffect, hroused⟩
  cases exit with
  | none =>
    obtain ⟨hpath, hs'⟩ := heffect.path
    exact hgo h' s' hs' (hfollows.path hpath hroused.untaken)
  | some step =>
    rw [hexit]
    exact heffect.follows hroused.untaken hfollows

theorem stepAfterCommand_follows (hs : s.Sound) (hfollows : h.Follows results s) :
    Act.wp stepAfterCommand h s (StepFollows results) := by
  unfold stepAfterCommand
  rw [Act.wp_bind]
  refine Act.wp_mono (Act.wp_and (markImmediate_spec h s hs) (markImmediate_looks hs)) ?_
  rintro h s₁ - ⟨⟨hmark, hs₁⟩, rfl, -⟩
  rw [Act.wp_bind, wp_frame]
  have hpolls := Act.wp_mono (pollBatches_looks s₁.budget.pollBatches h s₁ hs₁) fun _ _ _ hlooks => hlooks.1
  refine wp_follows (pollBatches_spec _ h s₁ hs₁) hpolls (fun _ => rfl) (hfollows.path hmark .refl) ?_
  intro h₂ s₂ hs₂ hfollows₂
  refine wp_follows (drive_spec h₂ s₂ hs₂) (drive_rouses hs₂) (fun _ => rfl) hfollows₂ ?_
  intro h₃ s₃ hs₃ hfollows₃
  refine wp_follows (duePhase_spec h₃ s₃ hs₃) (duePhase_rouses hs₃) (fun _ => rfl) hfollows₃ ?_
  intro h₄ s₄ hs₄ hfollows₄
  refine ⟨?_, ?_⟩
  swap
  · rintro error progress ⟨⟩
  rintro progress ⟨⟩
  exact hfollows₄.shifts hs₄ (.same rfl ⟨rfl, rfl, rfl, rfl⟩) rfl

/-- A command phase that ends the step has not answered its command well. -/
theorem commandPhase_ends (results : List CommandResult) (hs : s.Sound) (hresult : s.progress.commandResult = none) :
    Act.wp commandPhase h s fun (h' : Log m r) s' exit => ∀ step, exit = some step → StepFollows results h' s' step := by
  unfold commandPhase
  rw [Act.wp_bind, wp_frame]
  split
  · exact fun step hsome => absurd hsome.symm (Option.some_ne_none _)
  · rename_i hidle
    rw [Bool.or_eq_true, not_or] at hidle
    have hcommand : s.connectionCommandPending = none := by simpa using hidle.1
    have htap : s.reporting.hasPending = false := by simpa using hidle.2
    rw [Act.wp_bind, wp_nextCommand]
    intro command
    cases command with
    | none => exact fun step hsome => absurd hsome.symm (Option.some_ne_none _)
    | some command =>
      simp only [Act.wp_bind, modifyProgress, wp_update]
      refine Act.wp_mono (runCommand_spec command _ s.countCommand) ?_
      rintro h' s' progress heffect
      have hs' := (Move.command hcommand htap hresult heffect).sound hs
      refine wp_settle _ _ _ _ (fun _ => heffect.result.trans hresult) ?_
      refine wp_closeIfRequested h' _ hs' _ ?_ ?_
      · cases hterminal : (nonterminalCommandProgress progress).2 with
        | none => exact fun step hsome => absurd hsome.symm (Option.some_ne_none _)
        | some error =>
          obtain ⟨refusal, hsettled⟩ := terminal_settled (by rw [hterminal]; exact Option.some_ne_none _)
          dsimp only
          rw [Act.wp_bind]
          refine Act.wp_mono (fail_spec error _ _ fun hpending => hs'.unanswered (.inl hpending)) ?_
          rintro h'' s'' step hfail step' ⟨⟩
          refine ⟨?_, ?_⟩
          · rintro progress rfl
            cases hfail
          · rintro error' progress rfl hok
            have hanswer := hfail.unsuccessful hok
            rw [hsettled] at hanswer
            cases hanswer
      · rintro request t h'' s'' step hclose step' ⟨⟩
        exact hclose.follows

/-- Every step leaves the worker with the pad. -/
theorem stepRuntime_follows (hs : Coherent s.toWorkerCore) (hfollows : h.Follows results s.fresh) :
    Act.wp stepRuntime h s (StepFollows results) := by
  have hfresh : s.fresh.Sound := ⟨hs, fun _ => rfl⟩
  unfold stepRuntime modifyProgress
  rw [Act.wp_bind, wp_update, Act.wp_bind]
  refine wp_closeIfRequested h s.fresh hfresh _ ?_ ?_
  · dsimp only
    rw [Act.wp_bind]
    refine Act.wp_mono (Act.wp_and (commandPhase_serves hfresh rfl) (commandPhase_ends results hfresh rfl)) ?_
    rintro h₂ s₂ exit ⟨hserved, hends⟩
    cases exit with
    | some step => exact hends step rfl
    | none =>
      obtain ⟨hs₂, ⟨hsame, rfl⟩ | ⟨command, hfree, htaken, hserves⟩⟩ := hserved rfl
      · refine stepAfterCommand_follows hs₂ ?_
        unfold Log.Follows
        rw [hsame]
        exact hfollows
      · refine stepAfterCommand_follows hs₂ ?_
        unfold Log.Follows
        rw [htaken]
        refine hfollows.take (fun _ _ hserved => hfree hserved.engaged) ?_
        rintro pad ⟨rfl, -⟩
        exact hserves
  · intro request t h' s' step hclose
    exact hclose.follows

/-! ## Runs -/

/-- A worker as it is built is a new pad. -/
theorem WorkerCore.IsNew.follows {core : WorkerCore m r} (hnew : core.IsNew) :
    core.openLog.Follows [] core.start.fresh := by
  refine .rests rfl .start ⟨?_, ?_⟩
  · have hinput : core.input = .neutral := by
      cases hnew with
      | direct protocol budget => rfl
      | periodic hnew =>
        unfold newPeriodic at hnew
        split at hnew
        · cases hnew
        · cases hnew
          rfl
    exact (IsOpen.pad (s := core.start.fresh) hnew.isOpen).trans (congrArg (Pad.mk false) hinput)
  · intro hengaged
    have hlength := (hnew.owes.busy hengaged).2
    cases hlength

variable {owner : List Response → Log m r → Log m r → Prop} {receiver : CommandReceiver} {sent : List Response}

theorem Serving.follows (hserving : Serving owner h s receiver sent) :
    h.Follows (sent.map Response.result).reverse s.fresh := by
  induction hserving with
  | opened hnew => exact hnew.follows
  | turn hserving hturn ih =>
    cases hturn with
    | delivered hexec howner hfetched hdelivered =>
      have hrun := hserving.run
      have hfollows := (hexec.post (stepRuntime_follows hrun.coherent ih)).goes _ rfl
      obtain ⟨howes, hunanswered, hprogress⟩ := hfetched.continued hserving.owes hrun hexec
      obtain ⟨-, -, hmore⟩ := howes.deliver hunanswered hprogress hdelivered
      have hresults := hfollows.deliver hunanswered
      rw [List.map_append, hmore, List.reverse_append, hprogress, reverse_toList]
      exact hresults

/-- The answers of a worker, given so far, are answers of the pad to the commands taken, and the worker is as the pad is
after them, at rest or serving the command taken last. -/
theorem worker_plays (hserving : Serving owner h s receiver sent) :
    h.Follows (sent.map Response.result).reverse s.fresh := hserving.follows

/-- The sample worker has paired and then sent its button, as the pad has. -/
theorem worker_plays_sample : sampleHeld.1.Follows [.ok (), .ok ()] sampleHeld.2.fresh ∧
    sampleHeld.1.commands.length = 2 ∧ sampleHeld.2.input ≠ .neutral := by
  obtain ⟨receiver, first, second, hserving, -, hfirst, hsecond⟩ := sampleHeld_serving
  have hplays := worker_plays hserving
  rw [List.map_cons, List.map_singleton, hfirst, hsecond] at hplays
  exact ⟨hplays, by decide +kernel, by decide +kernel⟩

end Swbt
