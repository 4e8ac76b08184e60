import Swbt.Effects.Reach
import Swbt.Runtime.Completion
import Swbt.Runtime.Latch
/-!
# Waking the worker

A worker that waits sleeps until the activity channel holds its one token.
Clients and the transport change what they share with the worker and put the
token there after that, at any time and between any two calls of a step. The
worker must not fall asleep over a change whose token it has already used up.
-/

set_option autoImplicit false

open Effects

namespace Swbt

variable {m : ControllerKind} {r : ReportingKind} {h h₀ h₁ h' : Log m r} {s s₀ s₁ s' : Frame m r}

/-! ## Steps that complete a command -/

/-- From `s` to `s'`, a command that no longer waits has made the next step immediate. -/
structure Wakes (s s' : Frame m r) : Prop where
  immediate : s.progress.immediate = true → s'.progress.immediate = true
  waits : s.waits = true → s'.waits = true ∨ s'.progress.immediate = true

namespace Wakes

theorem refl : Wakes s s := ⟨id, .inl⟩

theorem trans (hleft : Wakes s s₁) (hright : Wakes s₁ s') : Wakes s s' := by
  refine ⟨fun himmediate => hright.immediate (hleft.immediate himmediate), ?_⟩
  intro hwaits
  rcases hleft.waits hwaits with hwaits | himmediate
  · exact hright.waits hwaits
  · exact .inr (hright.immediate himmediate)

theorem of_immediate (himmediate : s'.progress.immediate = true) : Wakes s s' := ⟨fun _ => himmediate, fun _ => .inr himmediate⟩

theorem of_same (himmediate : s'.progress.immediate = s.progress.immediate)
    (hcommand : s'.connectionCommandPending = s.connectionCommandPending) (htap : s'.reporting.tap = s.reporting.tap) :
    Wakes s s' := by
  refine ⟨himmediate.trans, fun hwaits => .inl ?_⟩
  rw [Frame.waits, hcommand, Reporting.hasPending_eq, htap, ← Reporting.hasPending_eq]
  exact hwaits

/-- Where the connection command is pending before and after, nothing has been completed. -/
theorem of_command (himmediate : s'.progress.immediate = s.progress.immediate)
    (hcommand : s'.connectionCommandPending.isSome = true) : Wakes s s' := by
  refine ⟨himmediate.trans, fun _ => .inl ?_⟩
  rw [Frame.waits, hcommand, Bool.true_or]

end Wakes

theorem Frame.complete_immediate {s : Frame m r} (hcommand : s.connectionCommandPending.isSome = true) (result : CommandResult) :
    (s.complete result).progress.immediate = true := by
  obtain ⟨command, hpending⟩ := Option.isSome_iff_exists.1 hcommand
  unfold complete
  rw [hpending]
  rfl

/-- A connection that fails makes the next step immediate. -/
theorem Frame.failConnection_immediate {s : Frame m r} (hcommand : s.connectionCommandPending.isSome = true)
    (error : ReadinessError) : (s.failConnection error).progress.immediate = true := by
  obtain ⟨command, hpending⟩ := Option.isSome_iff_exists.1 hcommand
  unfold failConnection completeFailure
  rw [hpending]
  exact Frame.complete_immediate hcommand _

/-! ### Events -/

/-- A session that ends has completed what was pending in it. -/
theorem Frame.disconnect_wakes {s : Frame m r} (hs : s.Sound) (hlive : s.sessions.current ≠ none) (reason : Option UInt8) :
    Wakes s (s.disconnect reason) := by
  cases hs.coherent with
  | «open» hopen => exact absurd hopen.current hlive
  | connecting hwork hconnecting =>
    have htap : s.reporting.tap = none := by
      have hnone := hconnecting.noTap
      rwa [Reporting.hasPending_eq, Option.isSome_eq_false_iff, Option.isNone_iff_eq_none] at hnone
    have hcut : s.cutTap reason = s := by
      unfold cutTap
      rw [htap]
    refine .of_immediate ?_
    unfold disconnect
    rw [hcut]
    unfold cutConnection
    rw [hwork]
    exact Frame.failConnection_immediate (s := s.takeConnection) hconnecting.command _
  | ready hready =>
    have hkeep : ((s.cutTap reason).cutConnection reason) = s.cutTap reason := by
      have hnone : (s.cutTap reason).connection = none := by
        unfold cutTap
        split
        · exact hready.connection
        · exact hready.connection
      unfold cutConnection
      rw [hnone]
    unfold disconnect
    rw [hkeep]
    cases htap : s.reporting.tap with
    | some tap =>
      refine .of_immediate ?_
      unfold cutTap
      rw [htap]
      rfl
    | none =>
      have hcut : s.cutTap reason = s := by
        unfold cutTap
        rw [htap]
      rw [hcut]
      exact .of_same rfl rfl ((Reporting.tap_stopSession _).trans htap.symm)

theorem EventEffect.wakes {event : SessionEvent} {result : Except WorkerCoreError Bool}
    (he : EventEffect event h s h' s' result) (hs : s.Sound) : Wakes s s' := by
  cases he with
  | dropped hstale => exact .refl
  | connected hcurrent hevent => exact .of_same rfl rfl rfl
  | opened hcurrent hevent => exact .of_same rfl rfl rfl
  | disconnected hcurrent hevent =>
    refine Frame.disconnect_wakes hs ?_ _
    rw [hcurrent]
    exact Option.some_ne_none _
  | answered hcurrent hevent hheld hanswered =>
    obtain ⟨-, -, -, hcommand, -, -, -, hprogress⟩ := hanswered.keeps
    have himmediate := congrArg StepProgress.immediate hprogress
    refine .of_same himmediate hcommand ?_
    exact (Reporting.tap_recorded ..).trans (Reporting.tap_withTap_tap _ _)

/-! ### Drives -/

theorem Frame.noteHandshake_immediate (s : Frame m r) (progress : HandshakeProgress) :
    (s.noteHandshake progress).progress.immediate = s.progress.immediate := by
  cases progress with
  | bootstrapAttempted result skipped =>
    cases result with
    | ok accepted => rfl
    | error error =>
      unfold noteHandshake
      dsimp only
      split
      · rfl
      · rfl
  | _ => rfl

theorem HandshakeEffect.immediate {handshake : Handshake} {t : Duration} {a : Except HandshakeError HandshakeProgress × Handshake}
    (he : HandshakeEffect handshake t h s h' s' a) : s'.progress.immediate = s.progress.immediate := by
  cases he with
  | attempted hattempting hscheduled hsent => exact congrArg StepProgress.immediate (Sent.progress hsent)
  | _ => rfl

theorem HandshakeDriven.immediate {work : ConnectionWork} {t : Duration} {a : Except WorkerCoreError Nat × ConnectionWork}
    (hd : HandshakeDriven work t h s h' s' a) : s'.progress.immediate = s.progress.immediate := by
  cases hd with
  | collected hnone => rfl
  | overflow hsome heffect => exact heffect.immediate
  | stepped hsome heffect => exact (Frame.noteHandshake_immediate _ _).trans heffect.immediate

theorem Evaluated.immediate {gate : ReadinessGate} {t : Duration} {handshake : Option Handshake} {evaluation : Evaluation}
    (he : Evaluated gate t handshake h s h' s' evaluation) : s'.progress.immediate = s.progress.immediate := by
  cases he with
  | _ => rfl

theorem DriveEffect.wakes {t : Duration} {result : Except WorkerCoreError Nat} (he : DriveEffect t h s h' s' result)
    (hs : s.Sound) : Wakes s s' := by
  cases he with
  | idle hnone => exact .refl
  | aborted hwork hinactive =>
    have hconnecting := hs.coherent.of_connection hwork
    exact .of_immediate (Frame.failConnection_immediate (s := s.takeConnection) hconnecting.command _)
  | failed hwork hactive hhandshake =>
    have hconnecting := hs.coherent.of_connection hwork
    obtain ⟨hsame, -⟩ := hhandshake.sameControl hconnecting.work
    exact .of_command hhandshake.immediate ((congrArg Option.isSome hsame.command).trans hconnecting.command)
  | pending hwork hactive hhandshake hevaluated hresult =>
    have hconnecting := hs.coherent.of_connection hwork
    obtain ⟨hsame₁, -, hwork₁, -⟩ := hhandshake.sameControl hconnecting.work
    obtain ⟨hsame₂, -⟩ := hevaluated.sameControl hwork₁
    refine .of_command (hevaluated.immediate.trans hhandshake.immediate) ?_
    exact (congrArg Option.isSome (hsame₁.trans hsame₂).command).trans hconnecting.command
  | ready hwork hactive hhandshake hevaluated hresult =>
    have hconnecting := hs.coherent.of_connection hwork
    obtain ⟨hsame₁, -, hwork₁, -⟩ := hhandshake.sameControl hconnecting.work
    obtain ⟨hsame₂, -⟩ := hevaluated.sameControl hwork₁
    rename_i s₂
    refine .of_immediate (Frame.complete_immediate (s := s₂.markReady) ?_ _)
    exact (congrArg Option.isSome (hsame₁.trans hsame₂).command).trans hconnecting.command
  | evaluationFailed hwork hactive hhandshake hevaluated hresult =>
    have hconnecting := hs.coherent.of_connection hwork
    obtain ⟨hsame₁, -, hwork₁, -⟩ := hhandshake.sameControl hconnecting.work
    obtain ⟨hsame₂, -⟩ := hevaluated.sameControl hwork₁
    refine .of_immediate (Frame.failConnection_immediate ?_ _)
    exact (congrArg Option.isSome (hsame₁.trans hsame₂).command).trans hconnecting.command

/-! ### Due actions -/

theorem Frame.recordDue_immediate (s : Frame m r) (due : ReportingDue) :
    (s.recordDue due).progress.immediate = (s.progress.immediate || due.immediate) := by
  unfold recordDue settleDue
  split
  · rfl
  · unfold settle
    split
    · rfl
    · rfl

theorem DueEffect.wakes {t : Duration} {due : ReportingDue} (he : DueEffect t h s h' s' due) : Wakes s (s'.recordDue due) := by
  have hquiet : ∀ {s₁ : Frame m r} {errors : List WorkerOperationError} {actions : Nat},
      s₁.progress = s.progress → s₁.connectionCommandPending = s.connectionCommandPending →
        s₁.reporting.tap = s.reporting.tap → Wakes s (s₁.recordDue ⟨actions, false, none, errors⟩) := by
    intro s₁ errors actions hprogress hcommand htap
    refine .of_same ?_ hcommand htap
    rw [Frame.recordDue_immediate, Bool.or_false, hprogress]
  cases he with
  | quiet htap hpolicy => exact hquiet rfl rfl rfl
  | failed hpolicy herror => exact hquiet rfl rfl rfl
  | backpressured htap hpolicy hticks => exact hquiet rfl rfl (Reporting.tap_withPolicy _ _)
  | automatic hpolicy hticks hsent herrors =>
    have hprogress := Sent.progress hsent
    have hreporting := Sent.reporting hsent
    have hsame := Sent.sameControl hsent
    refine hquiet hprogress hsame.command ?_
    rw [hreporting]
    exact Reporting.tap_withPolicy _ _
  | released htap hdue hreleased =>
    refine .of_immediate ?_
    rw [Frame.recordDue_immediate]
    exact Bool.or_true _

/-! ### Commands -/

theorem DirectSent.progress {candidate : InputState m} {nowNs : UInt64} {result : TransportResult Unit}
    (hsent : DirectSent candidate nowNs h s h' s' result) : s'.progress = s.progress := by
  cases hsent with
  | accepted hsent =>
    have hprogress := Sent.progress hsent
    exact hprogress
  | refused hsent => exact Sent.progress hsent

theorem PeriodicSent.progress {candidate : InputState m} {nowNs : UInt64} {result : TransportResult Unit}
    (hsent : PeriodicSent candidate nowNs h s h' s' result) : s'.progress = s.progress := by
  have hprogress := Sent.progress hsent
  exact hprogress

theorem InputEffect.progress {command : ReportingCommand m r} {t : Duration} {progress : WorkerCommandProgress}
    (he : InputEffect command t h s h' s' progress) : s'.progress = s.progress := by
  cases he with
  | rejected herror hplan => rfl
  | committed hr candidate hplan => rfl
  | sent hr hready hsent hplan => exact hsent.progress
  | unsent hr hready hsent hplan => exact hsent.progress
  | pressedDirect hr hready hsent hplan => exact hsent.progress
  | pressedPeriodic hr hready hsent hresult hplan => exact hsent.progress
  | unpressed hr hready hsent hkind hplan => exact hsent.progress

theorem CommandEffect.progress {command : RuntimeCommand m r} {progress : WorkerCommandProgress}
    (he : CommandEffect h s command h' s' progress) : s'.progress = s.progress := by
  cases he with
  | input heffect => exact heffect.progress
  | _ => rfl

theorem Frame.settle_commands (s : Frame m r) (progress : WorkerCommandProgress) :
    (s.settle progress).progress.commands = s.progress.commands := by
  cases progress with
  | pending => rfl
  | complete result => rfl

/-! ## Phases that wake -/

theorem EventEffect.untaken {event : SessionEvent} {result : Except WorkerCoreError Bool}
    (he : EventEffect event h s h' s' result) : Adds Untaken h h' := by
  rcases he.plain with hplain | ⟨hplain, -⟩
  · exact Adds.untaken hplain
  · exact (Adds.processed s event).trans (Adds.untaken hplain)

theorem DriveEffect.untaken {t : Duration} {result : Except WorkerCoreError Nat}
    (he : DriveEffect t (.call s Op.now t :: h) s h' s' result) : Adds Untaken h h' :=
  Adds.untaken ((Adds.single ⟨rfl, rfl⟩).trans he.plain)

theorem DueEffect.untaken {t : Duration} {due : ReportingDue} (he : DueEffect t (.call s Op.now t :: h) s h' s' due) :
    Adds Untaken h h' :=
  Adds.untaken ((Adds.single ⟨rfl, rfl⟩).trans he.plain)

/-- A part of a step takes no command. Where it lets the step go on, it wakes the worker for what it has completed. -/
structure Rouses (h : Log m r) (s : Frame m r) (h' : Log m r) (s' : Frame m r) (exit : Option WorkerStep) : Prop where
  untaken : Adds Untaken h h'
  goes : exit = none → s'.Sound ∧ Wakes s s'

theorem Rouses.exit {step : WorkerStep} (hadds : Adds Untaken h h') : Rouses h s h' s' (some step) := ⟨hadds, nofun⟩

theorem Rouses.go (hs : s'.Sound) (hadds : Adds Untaken h h') (hwakes : Wakes s s') : Rouses h s h' s' none :=
  ⟨hadds, fun _ => ⟨hs, hwakes⟩⟩

theorem Rouses.after {exit : Option WorkerStep} (hrouses : Rouses h₁ s₁ h' s' exit) (hadds : Adds Untaken h h₁)
    (hwakes : Wakes s s₁) : Rouses h s h' s' exit := by
  refine ⟨hadds.trans hrouses.untaken, fun hnone => ?_⟩
  obtain ⟨hs, hwakes'⟩ := hrouses.goes hnone
  exact ⟨hs, hwakes.trans hwakes'⟩

theorem wp_rouses {x : Worker m r (Option WorkerStep)} {f : Option WorkerStep → Worker m r (Option WorkerStep)}
    (hx : Act.wp x h s (Rouses h s)) (hexit : ∀ step, f (some step) = pure (some step))
    (hgo : ∀ h' s', s'.Sound → Act.wp (f none) h' s' (Rouses h' s')) : Act.wp (x >>= f) h s (Rouses h s) := by
  rw [Act.wp_bind]
  refine Act.wp_mono hx ?_
  intro h' s' exit hrouses
  cases exit with
  | some step =>
    rw [hexit]
    exact .exit hrouses.untaken
  | none =>
    obtain ⟨hs, hwakes⟩ := hrouses.goes rfl
    exact Act.wp_mono (hgo h' s' hs) fun _ _ _ hrest => hrest.after hrouses.untaken hwakes

/-- What ends a step anyway needs no more of it. -/
theorem wp_ends {x : Worker m r WorkerStep} {Q : Log m r → Frame m r → Option WorkerStep → Prop}
    (hQ : ∀ h s step, Q h s (some step)) : Act.wp (do return some (← x)) h s Q := by
  rw [Act.wp_bind]
  exact Act.wp_mono (Prog.wp_trivial _ _) fun h s step _ => hQ h s step

theorem CloseEffect.untaken {request : ShutdownRequest} {t : Duration} {step : WorkerStep}
    (hclose : CloseEffect request t (.call s Op.now t :: .call s Op.takeShutdown (some request) :: h) s h' s' step) :
    Adds Untaken h h' :=
  Adds.untaken (((Adds.single ⟨rfl, rfl⟩).cons ⟨rfl, rfl⟩).trans hclose.plain)

theorem closeIfRequested_rouses (hs : s.Sound) : Act.wp closeIfRequested h s (Rouses h s) := by
  refine wp_closeIfRequested h s hs _ ?_ ?_
  · exact .go hs (.single rfl) .refl
  · intro request t h' s' step hclose
    exact .exit hclose.untaken

theorem unasked : Adds Untaken h (.call s Op.takeShutdown none :: h) := .single rfl

theorem fail_rouses (error : WorkerCoreError) (hs : s₁.Sound) (hadds : Adds Untaken h h₁) :
    Act.wp (fail error) h₁ s₁ fun h' s' step => Rouses h s h' s' (some step) := by
  refine Act.wp_mono (fail_spec error h₁ s₁ fun hpending => hs.unanswered (.inl hpending)) ?_
  intro h' s' step hfail
  cases hfail
  exact .exit (hadds.trans (.single rfl))

theorem failOrClose_rouses (error : WorkerCoreError) (hs : s₁.Sound) (hadds : Adds Untaken h h₁) :
    Act.wp (do return some (← failOrClose error)) h₁ s₁ (Rouses h s) := by
  unfold failOrClose
  rw [Act.wp_bind, Act.wp_bind]
  refine wp_closeIfRequested h₁ s₁ hs _ ?_ ?_
  · exact fail_rouses error hs (hadds.trans unasked)
  · intro request t h' s' step hclose
    exact .exit (hadds.trans hclose.untaken)

/-- The check that follows a move, and the failure where it was terminal. -/
theorem afterMove_rouses {terminal : Option WorkerCoreError} (hs : s₁.Sound) (hadds : Adds Untaken h h₁)
    (hwakes : Wakes s s₁) : Act.wp (do
      match ← closeIfRequested with
      | some exit => return some exit
      | none =>
        match terminal with
        | some error => return some (← fail error)
        | none => return none) h₁ s₁ (Rouses h s) := by
  rw [Act.wp_bind]
  refine wp_closeIfRequested h₁ s₁ hs _ ?_ ?_
  · cases terminal with
    | some error =>
      dsimp only
      rw [Act.wp_bind]
      exact fail_rouses error hs (hadds.trans unasked)
    | none => exact .go hs (hadds.trans unasked) hwakes
  · intro request t h' s' step hclose
    exact .exit (hadds.trans hclose.untaken)

theorem drive_rouses (hs : s.Sound) : Act.wp drive h s (Rouses h s) := by
  unfold drive
  simp only [Act.wp_bind, wp_now]
  intro t
  refine Act.wp_mono (driveConnection_spec t _ s hs) ?_
  intro h' s' result heffect
  have hmove := Move.drive heffect
  cases result with
  | error error => exact failOrClose_rouses error (hmove.sound hs) heffect.untaken
  | ok actions =>
    simp only [Act.wp_bind, modifyProgress, wp_update]
    have hcount := @Move.progress _ _ h' s' { s'.progress with dueActions := s'.progress.dueActions + actions } rfl
    refine Act.wp_mono (closeIfRequested_rouses (hcount.sound (hmove.sound hs))) ?_
    intro _ _ _ hrouses
    exact hrouses.after heffect.untaken ((heffect.wakes hs).trans (.of_same rfl rfl rfl))

theorem afterEvent_rouses {rest : List (Option SessionEvent)}
    (hrest : ∀ (h : Log m r) (s : Frame m r), s.Sound → Act.wp (handleEvents rest) h s (Rouses h s))
    (topologyChanged : Bool) (hs : s.Sound) :
    Act.wp (do
      match ← closeIfRequested with
      | some exit => return some exit
      | none =>
        match ← (if topologyChanged then drive else pure none) with
        | some exit => return some exit
        | none => handleEvents rest) h s (Rouses h s) := by
  refine wp_rouses (closeIfRequested_rouses hs) (fun _ => rfl) ?_
  intro h' s' hs'
  refine wp_rouses ?_ (fun _ => rfl) hrest
  split
  · exact drive_rouses hs'
  · exact .go hs' .refl .refl

theorem handleEvents_rouses (events : List (Option SessionEvent)) (h : Log m r) (s : Frame m r) (hs : s.Sound) :
    Act.wp (handleEvents events) h s (Rouses h s) := by
  induction events generalizing h s with
  | nil => exact .go hs .refl .refl
  | cons event rest ih =>
    unfold handleEvents modifyProgress
    rw [Act.wp_bind, wp_update]
    have hcount := @Move.progress _ _ h s { s.progress with hciEvents := s.progress.hciEvents + 1 } rfl
    have hs₁ := hcount.sound hs
    have hcounted : Wakes s { s with progress := { s.progress with hciEvents := s.progress.hciEvents + 1 } } :=
      .of_same rfl rfl rfl
    cases event with
    | none =>
      dsimp only
      rw [Act.wp_bind, wp_processed, Act.wp_bind, Act.wp_pure]
      refine Act.wp_mono (afterEvent_rouses ih false hs₁) ?_
      intro _ _ _ hrouses
      exact hrouses.after (.single rfl) hcounted
    | some event =>
      dsimp only
      rw [Act.wp_bind]
      refine Act.wp_mono (handleEvent_spec event _ _ hs₁) ?_
      intro h' s' outcome heffect
      have hmove := Move.event heffect
      cases outcome with
      | error error => exact failOrClose_rouses error (hmove.sound hs₁) heffect.untaken
      | ok topologyChanged =>
        refine Act.wp_mono (afterEvent_rouses ih topologyChanged (hmove.sound hs₁)) ?_
        intro _ _ _ hrouses
        exact hrouses.after heffect.untaken (hcounted.trans (heffect.wakes hs₁))

theorem duePhase_rouses (hs : s.Sound) : Act.wp duePhase h s (Rouses h s) := by
  unfold duePhase
  rw [Act.wp_bind, wp_frame]
  split
  · rename_i hallowed
    have hallowed : s.DueAllowed := by
      simpa only [WorkerCore.DueAllowed, Bool.or_eq_true, Bool.and_eq_true, decide_eq_true_eq] using hallowed
    unfold modifyProgress
    simp only [Act.wp_bind, wp_now, wp_update]
    intro t
    refine Act.wp_mono (runDue_spec t _ s) ?_
    intro h' s' due heffect
    have hmove := Move.due hallowed heffect
    refine recordDueCompletion_spec _ _ (s'.countDue due) (heffect.unanswered hs) _ ?_
    refine recordDueErrors_spec _ _ _ _ _ ?_
    rw [← Act.wp_bind]
    exact afterMove_rouses (hmove.sound hs) heffect.untaken heffect.wakes
  · exact .go hs .refl .refl

/-! ## What a step has looked at -/

/-- Where something may be waiting for a worker. -/
inductive Source
  | shutdown | command | events

/-- Where an answer says that nothing is waiting. -/
def nothingAt : LogEvent m r → Option Source
  | .call _ .takeShutdown none => some .shutdown
  | .call _ .nextCommand none => some .command
  | .call _ (.poll _) (.ok []) => some .events
  | _ => none

/-- Since `h₀` the step from `s₀` has been told that nothing is waiting there. A
command is asked for by a worker that has none. -/
def Saw (h₀ : Log m r) (s₀ : Frame m r) (source : Source) (h : Log m r) : Prop :=
  ∃ e before, e :: before <:+ h ∧ h₀ <:+ before ∧ nothingAt e = some source ∧
    (source = .command → s₀.waits = false ∧ Adds Untaken h₀ before)

theorem Saw.later {source : Source} (hsaw : Saw h₀ s₀ source h) (hsuffix : h <:+ h') : Saw h₀ s₀ source h' := by
  obtain ⟨e, before, hbefore, hrest⟩ := hsaw
  exact ⟨e, before, hbefore.trans hsuffix, hrest⟩

/-- What was seen last. -/
theorem Saw.of_cons {source : Source} {e : LogEvent m r} (hsaw : Saw h₀ s₀ source (e :: h)) :
    Saw h₀ s₀ source h ∨ nothingAt e = some source ∧ (source = .command → s₀.waits = false ∧ Adds Untaken h₀ h) := by
  obtain ⟨e', before, hbefore, hsuffix, hnothing, hcommand⟩ := hsaw
  rcases List.suffix_cons_iff.1 hbefore with heq | hbefore
  · cases heq
    exact .inr ⟨hnothing, hcommand⟩
  · exact .inl ⟨e', before, hbefore, hsuffix, hnothing, hcommand⟩

theorem not_saw {source : Source} : ¬ Saw h s₀ source h := by
  rintro ⟨e, before, hbefore, hsuffix, -⟩
  have hlength := hbefore.length_le
  have hlength' := hsuffix.length_le
  rw [List.length_cons] at hlength
  omega

/-- The command phase finds no command, or leaves one waiting, or counts one. -/
theorem commandPhase_looks (hs : s.Sound) (hresult : s.progress.commandResult = none) :
    Act.wp commandPhase h s fun h' s' exit => exit = none → s'.Sound ∧ h <:+ h' ∧
      (s'.waits = true ∨ (s.waits = false ∧ h' = .call s Op.nextCommand none :: h) ∨
        s'.progress.commands = s.progress.commands + 1) := by
  unfold commandPhase
  rw [Act.wp_bind, wp_frame]
  split
  · rename_i hwaits
    exact fun _ => ⟨hs, List.suffix_refl _, .inl hwaits⟩
  · rename_i hidle
    have hwaits : s.waits = false := Bool.eq_false_iff.2 hidle
    rw [Bool.or_eq_true, not_or] at hidle
    have hcommand : s.connectionCommandPending = none := by simpa using hidle.1
    have htap : s.reporting.hasPending = false := by simpa using hidle.2
    rw [Act.wp_bind, wp_nextCommand]
    intro command
    cases command with
    | none => exact fun _ => ⟨hs, List.suffix_cons _ _, .inr (.inl ⟨hwaits, rfl⟩)⟩
    | some command =>
      simp only [Act.wp_bind, modifyProgress, wp_update]
      refine Act.wp_mono (runCommand_spec command _ s.countCommand) ?_
      intro h' s' progress heffect
      have hmove := Move.command hcommand htap hresult heffect
      have hs' := hmove.sound hs
      have hcommands : (s'.settle (nonterminalCommandProgress progress).1).progress.commands = s.progress.commands + 1 :=
        (Frame.settle_commands _ _).trans (congrArg StepProgress.commands heffect.progress)
      refine wp_settle _ _ _ _ (fun _ => heffect.result.trans hresult) ?_
      refine wp_closeIfRequested _ _ hs' _ ?_ ?_
      · cases (nonterminalCommandProgress progress).2 with
        | some error => exact wp_ends fun _ _ _ hnone => absurd hnone (Option.some_ne_none _)
        | none => exact fun _ => ⟨hs', hmove.suffix.trans (List.suffix_cons _ _), .inr (.inr hcommands)⟩
      · exact fun _ _ _ _ _ _ hnone => absurd hnone (Option.some_ne_none _)

/-- A worker that has counted a command waits for it, or makes the next step at once. -/
theorem markImmediate_looks (hs : s.Sound) : Act.wp markImmediate h s fun h' s' _ =>
    h' = h ∧ s'.Sound ∧ s'.budget = s.budget ∧ s'.waits = s.waits ∧
      (s.progress.commands = 1 → s'.waits = true ∨ s'.progress.immediate = true) := by
  unfold markImmediate modifyProgress
  rw [Act.wp_bind, wp_frame]
  have hmove := @Move.progress _ _ h s { s.progress with immediate := true } rfl
  split
  · exact ⟨rfl, hmove.sound hs, rfl, rfl, fun _ => .inr rfl⟩
  · rename_i hnot
    refine ⟨rfl, hs, rfl, rfl, fun hone => .inl ?_⟩
    by_contra hwaits
    rw [Bool.not_eq_true, Frame.waits, Bool.or_eq_false_iff] at hwaits
    refine hnot ?_
    rw [hone, hwaits.2, Option.isNone_iff_eq_none.2 (by simpa using hwaits.1)]
    rfl

/-- The poll loop finds nothing, or spends its budget and makes the next step at once. -/
theorem pollBatches_looks (remaining : Nat) (h : Log m r) (s : Frame m r) (hs : s.Sound) :
    Act.wp (pollBatches remaining) h s fun h' s' exit => Rouses h s h' s' exit ∧ (exit = none → 0 < remaining →
      s'.progress.immediate = true ∨
        ∃ f before, .call f (Op.poll .ZERO) (.ok []) :: before <:+ h' ∧ h <:+ before) := by
  induction remaining generalizing h s with
  | zero => exact ⟨.go hs .refl .refl, fun _ hpos => absurd hpos (lt_irrefl 0)⟩
  | succ remaining ih =>
    unfold pollBatches
    rw [Act.wp_bind, wp_poll]
    intro batch
    cases batch with
    | error error =>
      refine Act.wp_and (failOrClose_rouses (.transport error) hs (.single rfl)) ?_
      exact wp_ends fun _ _ _ hnone => absurd hnone (Option.some_ne_none _)
    | ok events =>
      dsimp only
      split
      · rename_i hempty
        rw [List.isEmpty_iff.1 hempty]
        exact ⟨.go hs (.single rfl) .refl, fun _ _ => .inr ⟨s, h, List.suffix_refl _, List.suffix_refl _⟩⟩
      · rw [Act.wp_bind, wp_frame, Act.wp_bind]
        refine Act.wp_mono (handleEvents_rouses _ _ s hs) ?_
        intro h' s' exit hrouses
        have hpolled : Adds Untaken h (.call s (Op.poll .ZERO) (.ok events) :: h) := .single rfl
        have hadds := hpolled.trans hrouses.untaken
        cases exit with
        | some step => exact ⟨.exit hadds, fun hnone => absurd hnone (Option.some_ne_none _)⟩
        | none =>
          obtain ⟨hs', hwakes⟩ := hrouses.goes rfl
          dsimp only
          split
          · rename_i hspent
            subst hspent
            have hmove := @Move.progress _ _ h' s' { s'.progress with immediate := true } rfl
            simp only [Act.wp_bind, modifyProgress, wp_update]
            exact ⟨.go (hmove.sound hs') hadds (.of_immediate rfl), fun _ _ => .inl rfl⟩
          · rename_i hleft
            refine Act.wp_mono (ih h' s' hs') ?_
            rintro h'' s'' exit ⟨hrest, hlooks⟩
            refine ⟨hrest.after hadds hwakes, fun hnone _ => ?_⟩
            rcases hlooks hnone (Nat.pos_of_ne_zero hleft) with himmediate | ⟨f, before, hpolled, hbefore⟩
            · exact .inl himmediate
            · exact .inr ⟨f, before, hpolled, hadds.suffix.trans hbefore⟩

theorem PhaseEffect.not_continue {progress : StepProgress} (he : PhaseEffect h s h' s' (some (.continue progress))) :
    False := by
  generalize hexit : some (WorkerStep.continue progress) = exit at he
  cases he with
  | running hpath hsound => cases hexit
  | closed hpath hsound₁ hlast hsound hclose =>
    cases hclose
    cases hexit
  | failed hpath hsound₁ hmove hsound hfail =>
    cases hfail
    cases hexit

/-- What holds at the end of a step that goes on. -/
def OnContinue (Q : Log m r → Frame m r → StepProgress → Prop) (h : Log m r) (s : Frame m r) (step : WorkerStep) : Prop :=
  ∀ progress, step = .continue progress → Q h s progress

/-- A phase, then the rest of a step that goes on. -/
theorem wp_onContinue {x : Worker m r (Option WorkerStep)} {f : Option WorkerStep → Worker m r WorkerStep}
    {R : Log m r → Frame m r → Option WorkerStep → Prop} {Q : Log m r → Frame m r → StepProgress → Prop}
    (hphase : Act.wp x h s (PhaseEffect h s)) (hx : Act.wp x h s R) (hexit : ∀ step, f (some step) = pure step)
    (hgo : ∀ h' s', R h' s' none → Act.wp (f none) h' s' (OnContinue Q)) : Act.wp (x >>= f) h s (OnContinue Q) := by
  rw [Act.wp_bind]
  refine Act.wp_mono (Act.wp_and hphase hx) ?_
  rintro h' s' exit ⟨heffect, hR⟩
  cases exit with
  | none => exact hgo h' s' hR
  | some step =>
    rw [hexit]
    rintro progress rfl
    exact absurd heffect PhaseEffect.not_continue

/-- The step from `s₀` has looked everywhere, unless it makes the next one at once. A command is only looked for
where none waits. -/
def Looked (h₀ : Log m r) (s₀ : Frame m r) (h : Log m r) (s : Frame m r) (progress : StepProgress) : Prop :=
  progress.immediate = true ∨
    (Saw h₀ s₀ .shutdown h ∧ (Saw h₀ s₀ .command h ∨ s.waits = true) ∧ Saw h₀ s₀ .events h)

theorem stepAfterCommand_looks (hs : s.Sound) (hsuffix : h₀ <:+ h) (hshutdown : Saw h₀ s₀ .shutdown h)
    (hcommand : Saw h₀ s₀ .command h ∨ s.waits = true ∨ s.progress.commands = 1) :
    Act.wp stepAfterCommand h s (OnContinue (Looked h₀ s₀)) := by
  unfold stepAfterCommand
  rw [Act.wp_bind]
  refine Act.wp_mono (markImmediate_looks hs) ?_
  rintro h s₁ - ⟨rfl, hs₁, hbudget, hwaits, hone⟩
  have hcommand₁ : Saw h₀ s₀ .command h ∨ s₁.waits = true ∨ s₁.progress.immediate = true := by
    rcases hcommand with hsaw | hbusy | hcounted
    · exact .inl hsaw
    · exact .inr (.inl (hwaits.trans hbusy))
    · exact .inr (hone hcounted)
  rw [Act.wp_bind, wp_frame]
  refine wp_onContinue (pollBatches_spec _ h s₁ hs₁) (pollBatches_looks _ h s₁ hs₁) (fun _ => rfl) ?_
  rintro h₂ s₂ ⟨hrouses₂, hlooks⟩
  obtain ⟨hadds₂, hgoes₂⟩ := hrouses₂
  obtain ⟨hs₂, hwakes₂⟩ := hgoes₂ rfl
  have hsuffix₂ := hadds₂.suffix
  have hpolled := hlooks rfl s₁.budget.pollBatches_pos
  refine wp_onContinue (drive_spec h₂ s₂ hs₂) (drive_rouses hs₂) (fun _ => rfl) ?_
  intro h₃ s₃ hrouses₃
  obtain ⟨hadds₃, hgoes₃⟩ := hrouses₃
  obtain ⟨hs₃, hwakes₃⟩ := hgoes₃ rfl
  refine wp_onContinue (duePhase_spec h₃ s₃ hs₃) (duePhase_rouses hs₃) (fun _ => rfl) ?_
  intro h₄ s₄ hrouses₄
  obtain ⟨hadds₄, hgoes₄⟩ := hrouses₄
  obtain ⟨hs₄, hwakes₄⟩ := hgoes₄ rfl
  have hwakes := hwakes₃.trans hwakes₄
  have hlater := (hadds₃.trans hadds₄).suffix
  rintro progress ⟨⟩
  have hcommand₄ : Saw h₀ s₀ .command h₄ ∨ s₄.waits = true ∨ s₄.progress.immediate = true := by
    rcases hcommand₁ with hsaw | hbusy | himmediate
    · exact .inl (hsaw.later (hsuffix₂.trans hlater))
    · exact .inr ((hwakes₂.trans hwakes).waits hbusy)
    · exact .inr (.inr ((hwakes₂.trans hwakes).immediate himmediate))
  have hshutdown₄ := hshutdown.later (hsuffix₂.trans hlater)
  rcases hpolled with himmediate | ⟨f, before, hpolled, hbefore⟩
  · exact .inl (hwakes.immediate himmediate)
  · have hevents : Saw h₀ s₀ .events h₄ := ⟨_, before, hpolled.trans hlater, hsuffix.trans hbefore, rfl, nofun⟩
    rcases hcommand₄ with hsaw | hbusy | himmediate
    · exact .inr ⟨hshutdown₄, .inl hsaw, hevents⟩
    · exact .inr ⟨hshutdown₄, .inr hbusy, hevents⟩
    · exact .inl himmediate

/-- A step that goes on has looked for a shutdown, a command and events, or makes the next one at once. -/
theorem stepRuntime_looks (hs : Coherent s.toWorkerCore) : Act.wp stepRuntime h s (OnContinue (Looked h s)) := by
  have hfresh : s.fresh.Sound := ⟨hs, fun _ => rfl⟩
  unfold stepRuntime modifyProgress
  rw [Act.wp_bind, wp_update]
  refine wp_onContinue (R := fun h' s' exit => exit = none → h' = .call s.fresh Op.takeShutdown none :: h ∧ s' = s.fresh)
    (closeIfRequested_spec h s.fresh hfresh) ?_ (fun _ => rfl) ?_
  · refine wp_closeIfRequested h s.fresh hfresh _ ?_ ?_
    · exact fun _ => ⟨rfl, rfl⟩
    · exact fun _ _ _ _ _ _ => nofun
  intro h₁ s₁ hunrequested
  obtain ⟨rfl, rfl⟩ := hunrequested rfl
  have hshutdown : Saw h s .shutdown (.call s.fresh Op.takeShutdown none :: h) :=
    ⟨_, h, List.suffix_refl _, List.suffix_refl _, rfl, nofun⟩
  refine wp_onContinue (commandPhase_spec _ s.fresh hfresh rfl) (commandPhase_looks hfresh rfl) (fun _ => rfl) ?_
  intro h₂ s₂ hlooks
  obtain ⟨hs₂, hsuffix, hcommand⟩ := hlooks rfl
  refine stepAfterCommand_looks hs₂ ((List.suffix_cons _ _).trans hsuffix) (hshutdown.later hsuffix) ?_
  rcases hcommand with hwaits | ⟨hidle, rfl⟩ | hcounted
  · exact .inr (.inl hwaits)
  · exact .inl ⟨_, _, List.suffix_refl _, List.suffix_cons _ _, rfl, fun _ => ⟨hidle, .single rfl⟩⟩
  · exact .inr (.inr hcounted)

end Swbt
