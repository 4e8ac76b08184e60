import Swbt.Effects.Added
import Swbt.Runtime.Ends
/-!
# Points of a run

A point of a run lies between two moves of one of its steps. Every command a
trace has taken and every event it has processed was met at such a point, and
the log goes on from there as the effect of that command or event says.
-/

set_option autoImplicit false

open Effects

namespace Swbt

variable {m : ControllerKind} {r : ReportingKind} {h h₀ h₁ h' : Log m r} {s s₁ s' f : Frame m r}

/-- The event of the transport that the step loop has come to, if it belongs to the session. -/
def processedEvent : LogEvent m r → Option SessionEvent
  | .emit _ (.processed event) => event
  | _ => none

/-- An event that neither takes a command nor comes to one of the transport. -/
structure Plain (e : LogEvent m r) : Prop where
  taken : takenCommand e = none
  processed : processedEvent e = none

/-- What a report adds to a log, and the commit of its input. -/
inductive Routine : LogEvent m r → Prop
  | report {s : Frame m r} {payload : List UInt8} {result : TransportResult Unit} (hhead : payload.head? = some 0x30) :
      Routine (.call s (Op.sendInterrupt payload) result)
  | counted {s : Frame m r} {sender : ReportSender} : Routine (.emit s (.status sender.statusCall))
  | committed {s : Frame m r} {input : InputState m} : Routine (.emit s (.status (.setSnapshot input)))

theorem Routine.plain {e : LogEvent m r} (hroutine : Routine e) : Plain e := by
  cases hroutine with
  | report hhead => exact ⟨rfl, rfl⟩
  | counted => exact ⟨rfl, rfl⟩
  | committed => exact ⟨rfl, rfl⟩

/-! ## What effects add -/

theorem Sent.plain {bytes : List UInt8} {candidate : SenderCommit} {result : TransportResult Unit}
    (hsent : Sent bytes candidate h s h' s' result) : Adds Plain h h' := by
  cases hsent with
  | refused error => exact .single ⟨rfl, rfl⟩
  | accepted => exact (Adds.single ⟨rfl, rfl⟩).cons ⟨rfl, rfl⟩

theorem InputSent.routine {state : InputState m} {nowNs : UInt64} {result : TransportResult Unit}
    (hsent : InputSent state nowNs h s h' s' result) : Adds Routine h h' := by
  unfold InputSent at hsent
  cases hsent with
  | refused error => exact .single (.report (s.sender.head_inputCandidate state nowNs))
  | accepted => exact (Adds.single (.report (s.sender.head_inputCandidate state nowNs))).cons .counted

theorem DirectSent.routine {candidate : InputState m} {nowNs : UInt64} {result : TransportResult Unit}
    (hsent : DirectSent candidate nowNs h s h' s' result) : Adds Routine h h' := by
  cases hsent with
  | refused hsent => exact InputSent.routine hsent
  | accepted hsent => exact (InputSent.routine hsent).cons .committed

theorem PeriodicSent.routine {candidate : InputState m} {nowNs : UInt64} {result : TransportResult Unit}
    (hsent : PeriodicSent candidate nowNs h s h' s' result) : Adds Routine h h' :=
  (Adds.single .committed).trans (InputSent.routine hsent)

theorem InputEffect.routine {command : ReportingCommand m r} {t : Duration} {progress : WorkerCommandProgress}
    (he : InputEffect command t h s h' s' progress) : Adds Routine h h' := by
  cases he with
  | rejected herror hplan => exact .refl
  | committed hr candidate hplan => exact .single .committed
  | sent hr hready hsent hplan => exact hsent.routine
  | unsent hr hready hsent hplan => exact hsent.routine
  | pressedDirect hr hready hsent hplan => exact hsent.routine
  | pressedPeriodic hr hready hsent hresult hplan => exact hsent.routine
  | unpressed hr hready hsent hkind hplan => exact hsent.routine

theorem Released.routine {tap : Tap m} {t : Duration} {result : CommandResult}
    (hreleased : Released tap t h s h' s' result) : Adds Routine h h' := by
  cases hreleased with
  | periodic hr hsent => exact hsent.routine
  | direct hr hsent => exact hsent.routine

/-- What a command met in the frame `s` adds: its start, a reading of the clock,
the begin of a session, or what a report adds. -/
inductive CommandEvent (s : Frame m r) : LogEvent m r → Prop
  | started {kind : ConnectionCommandKind} {result : TransportResult Unit} : CommandEvent s (startEvent kind s result)
  | read {t : Duration} : CommandEvent s (.call s Op.now t)
  | begun {f : Frame m r} {id : ConnectionSessionId} {state : LifecycleState} {input : InputState m} :
      CommandEvent s (.emit f (.status (.beginSession id state input)))
  | routine {e : LogEvent m r} (hroutine : Routine e) : CommandEvent s e

theorem CommandEffect.events {command : RuntimeCommand m r} {progress : WorkerCommandProgress}
    (he : CommandEffect h s command h' s' progress) : Adds (CommandEvent s) h h' := by
  cases he with
  | unstarted => exact .single .started
  | refused hopen => exact (Adds.single .started).cons .read
  | begun hopen =>
    exact ((((Adds.single .started).cons .read).cons (.routine .counted)).cons (.routine .committed)).cons .begun
  | ended hended => exact .refl
  | input heffect => exact (Adds.single .read).trans (heffect.routine.mono fun _ => .routine)

theorem CommandEvent.plain {e : LogEvent m r} (hevent : CommandEvent s e) : Plain e := by
  cases hevent with
  | started =>
    rename_i kind result
    cases kind with
    | pair => exact ⟨rfl, rfl⟩
    | reconnect => exact ⟨rfl, rfl⟩
  | read => exact ⟨rfl, rfl⟩
  | begun => exact ⟨rfl, rfl⟩
  | routine hroutine => exact hroutine.plain

theorem CommandEffect.plain {command : RuntimeCommand m r} {progress : WorkerCommandProgress}
    (he : CommandEffect h s command h' s' progress) : Adds Plain h h' := he.events.mono fun _ => CommandEvent.plain

theorem Answered.plain {channel : HidChannel} {raw : List UInt8} {current : InputState m}
    {completion : Except OutputHandlingError OutputHandling}
    (ha : Answered channel raw current h s h' s' completion) : Adds Plain h h' := by
  cases ha with
  | malformed hparse => exact .refl
  | rumble hparse => exact .single ⟨rfl, rfl⟩
  | unprepared hparse hprepare => exact (Adds.single ⟨rfl, rfl⟩).cons ⟨rfl, rfl⟩
  | replied hparse hprepare hsent => exact ((Adds.single ⟨rfl, rfl⟩).cons ⟨rfl, rfl⟩).trans hsent.plain

theorem HandshakeDriven.routine {work : ConnectionWork} {t : Duration} {a : Except WorkerCoreError Nat × ConnectionWork}
    (hd : HandshakeDriven work t h s h' s' a) : Adds Routine h h' := by
  rcases hd.sends with rfl | ⟨s₁, result, hsent⟩
  · exact .refl
  · exact InputSent.routine hsent

theorem Evaluated.added {gate : ReadinessGate} {t : Duration} {handshake : Option Handshake} {evaluation : Evaluation}
    (he : Evaluated gate t handshake h s h' s' evaluation) : Adds Plain h h' := by
  cases he <;> exact .refl

theorem DriveEffect.plain {t : Duration} {result : Except WorkerCoreError Nat}
    (he : DriveEffect t h s h' s' result) : Adds Plain h h' := by
  cases he with
  | idle hnone => exact .refl
  | aborted hwork hinactive => exact .single ⟨rfl, rfl⟩
  | failed hwork hactive hhandshake => exact hhandshake.routine.mono fun _ => Routine.plain
  | pending hwork hactive hhandshake hevaluated hresult =>
    exact (hhandshake.routine.mono fun _ => Routine.plain).trans hevaluated.added
  | ready hwork hactive hhandshake hevaluated hresult =>
    exact ((hhandshake.routine.mono fun _ => Routine.plain).trans hevaluated.added).cons ⟨rfl, rfl⟩
  | evaluationFailed hwork hactive hhandshake hevaluated hresult =>
    exact ((hhandshake.routine.mono fun _ => Routine.plain).trans hevaluated.added).cons ⟨rfl, rfl⟩

/-- What falls due adds: a question for send capacity, or what a report adds. -/
inductive DueEvent : LogEvent m r → Prop
  | asked {s : Frame m r} {available : Bool} : DueEvent (.call s Op.interruptSendCapacityAvailable available)
  | routine {e : LogEvent m r} (hroutine : Routine e) : DueEvent e

theorem DueEffect.events {t : Duration} {due : ReportingDue} (he : DueEffect t h s h' s' due) : Adds DueEvent h h' := by
  cases he with
  | quiet htap hpolicy => exact .refl
  | failed hpolicy herror => exact .refl
  | backpressured htap hpolicy hticks => exact .single .asked
  | automatic hpolicy hticks hsent herrors =>
    exact (Adds.single .asked).trans ((InputSent.routine hsent).mono fun _ => .routine)
  | released htap hdue hreleased => exact hreleased.routine.mono fun _ => .routine

theorem DueEffect.plain {t : Duration} {due : ReportingDue} (he : DueEffect t h s h' s' due) : Adds Plain h h' := by
  refine he.events.mono ?_
  intro e hevent
  cases hevent with
  | asked => exact ⟨rfl, rfl⟩
  | routine hroutine => exact hroutine.plain

theorem EventEffect.plain {event : SessionEvent} {result : Except WorkerCoreError Bool}
    (he : EventEffect event h s h' s' result) :
    Adds Plain h h' ∨
      (Adds Plain (.emit s (.processed (some event)) :: h) h' ∧ s.sessions.current = some event.sessionId) := by
  cases he with
  | dropped hstale => exact .inl (.single ⟨rfl, rfl⟩)
  | connected hcurrent hevent => exact .inr ⟨.single ⟨rfl, rfl⟩, hcurrent⟩
  | opened hcurrent hevent => exact .inr ⟨.refl, hcurrent⟩
  | answered hcurrent hevent hheld hanswered => exact .inr ⟨hanswered.plain.cons ⟨rfl, rfl⟩, hcurrent⟩
  | disconnected hcurrent hevent => exact .inr ⟨.single ⟨rfl, rfl⟩, hcurrent⟩

/-- A move adds plain events, after the command it takes or the event it comes to. -/
theorem Move.plain {terminal : Option WorkerCoreError} (hmove : Move h s terminal h' s') :
    Adds Plain h h' ∨
    (∃ command s₁ progress, Adds Plain (.call s Op.nextCommand (some command) :: h) h' ∧
      CommandEffect (.call s Op.nextCommand (some command) :: h) s.countCommand command h' s₁ progress ∧
      s' = s₁.settle (nonterminalCommandProgress progress).1 ∧ s.connectionCommandPending = none ∧
      s.reporting.hasPending = false ∧ s.progress.commandResult = none) ∨
    ∃ event result, Adds Plain (.emit s (.processed (some event)) :: h) h' ∧ EventEffect event h s h' s' result ∧
      s.sessions.current = some event.sessionId := by
  cases hmove with
  | unrequested => exact .inl (.single ⟨rfl, rfl⟩)
  | noCommand hcommand htap => exact .inl (.single ⟨rfl, rfl⟩)
  | polled => exact .inl (.single ⟨rfl, rfl⟩)
  | pollFailed => exact .inl (.single ⟨rfl, rfl⟩)
  | untagged => exact .inl (.single ⟨rfl, rfl⟩)
  | progress hresult => exact .inl .refl
  | command hcommand htap hresult heffect => exact .inr (.inl ⟨_, _, _, heffect.plain, heffect, rfl, hcommand, htap, hresult⟩)
  | event heffect =>
    rcases heffect.plain with hplain | ⟨hplain, hcurrent⟩
    · exact .inl hplain
    · exact .inr (.inr ⟨_, _, hplain, heffect, hcurrent⟩)
  | drive heffect => exact .inl ((Adds.single ⟨rfl, rfl⟩).trans heffect.plain)
  | due hallowed heffect => exact .inl ((Adds.single ⟨rfl, rfl⟩).trans heffect.plain)

/-- What a cleanup of this mode adds: what it publishes, its calls, and the
report of a worker that is closing. -/
inductive CleanupEvent (mode : CloseMode) : LogEvent m r → Prop
  | closing {s : Frame m r} : CleanupEvent mode (.emit s (.status (.setLifecycle .closing)))
  | closed {s : Frame m r} : CleanupEvent mode (.emit s (.status (.close .closed)))
  | report {s : Frame m r} {nowNs : UInt64} {result : TransportResult Unit} (hmode : mode = .withNeutral)
      (hclosing : s.lifecycle = ⟨.closing⟩) :
      CleanupEvent mode (.call s (Op.sendInterrupt (s.sender.inputCandidate (InputState.neutral (m := m)) nowNs).1) result)
  | counted {s : Frame m r} {sender : ReportSender} : CleanupEvent mode (.emit s (.status sender.statusCall))
  | drain {s : Frame m r} {timeout : Duration} {result : TransportResult Unit} :
      CleanupEvent mode (.call s (Op.drainInterrupt timeout) result)
  | disconnect {s : Frame m r} {result : TransportResult Unit} : CleanupEvent mode (.call s Op.disconnect result)
  | close {s : Frame m r} {result : TransportResult Unit} : CleanupEvent mode (.call s Op.close result)

theorem Cleaned.events {sequence : CleanupSequence} {connected publish : Bool} {nowNs : UInt64}
    {completion : CloseCompletion} (hc : Cleaned sequence connected nowNs publish h s h' s' completion) :
    Adds (CleanupEvent sequence.mode) h h' := by
  have hpublished : ∀ {h₁ h₂ : Log m r} (s : Frame m r) (call : StatusCall m),
      CleanupEvent sequence.mode (.emit s (.status call)) → Adds (CleanupEvent sequence.mode) h₁ h₂ →
        Adds (CleanupEvent sequence.mode) h₁ (published publish s call h₂) := by
    intro h₁ h₂ s call hcall hadds
    cases publish with
    | false => exact hadds
    | true => exact hadds.cons hcall
  cases hc with
  | closing hclosing => exact .refl
  | performed hlive hneutral hdrained =>
    rename_i h₁ h₂ failure₁ failure₂ disconnected closed
    have hentered := hpublished { s with lifecycle := ⟨.closing⟩ } (.setLifecycle .closing) .closing (.refl (h := h))
    have hsent : Adds (CleanupEvent sequence.mode) h h₁ := by
      cases hneutral with
      | skipped hwanted => exact hentered
      | sent hwanted hsent =>
        rw [Bool.and_eq_true, decide_eq_true_eq] at hwanted
        unfold InputSent at hsent
        cases hsent with
        | refused error => exact hentered.cons (.report hwanted.1 rfl)
        | accepted => exact (hentered.cons (.report hwanted.1 rfl)).cons .counted
    have hdrained : Adds (CleanupEvent sequence.mode) h h₂ := by
      cases hdrained with
      | drained hwanted => exact hsent.cons .drain
      | skipped hwanted => exact hsent
    exact hpublished _ _ .closed ((hdrained.cons .disconnect).cons .close)

theorem CleanupEvent.plain {mode : CloseMode} {e : LogEvent m r} (hevent : CleanupEvent mode e) : Plain e := by
  cases hevent <;> exact ⟨rfl, rfl⟩

theorem Cleaned.plain {sequence : CleanupSequence} {connected publish : Bool} {nowNs : UInt64}
    {completion : CloseCompletion} (hc : Cleaned sequence connected nowNs publish h s h' s' completion) :
    Adds Plain h h' := hc.events.mono fun _ => CleanupEvent.plain

theorem CloseEffect.plain {request : ShutdownRequest} {t : Duration} {step : WorkerStep}
    (hc : CloseEffect request t h s h' s' step) : Adds Plain h h' := by
  cases hc with
  | closed hcleaned => exact hcleaned.plain.cons ⟨rfl, rfl⟩

theorem AbandonEffect.plain {cause : WorkerFailureCause} {failure : Option CleanupFailure}
    (ha : AbandonEffect cause h s h' s' failure) : Adds Plain h h' := by
  cases ha with
  | cleaned hcleaned => exact ((Adds.single ⟨rfl, rfl⟩).cons ⟨rfl, rfl⟩).trans hcleaned.plain

theorem Move.suffix {terminal : Option WorkerCoreError} (hmove : Move h s terminal h' s') : h <:+ h' := by
  rcases hmove.plain with hplain | ⟨command, s₁, progress, hplain, -⟩ | ⟨event, result, hplain, -⟩
  · exact hplain.suffix
  · exact (List.suffix_cons _ _).trans hplain.suffix
  · exact (List.suffix_cons _ _).trans hplain.suffix

/-! ## Points -/

/-- Between two moves of a step that was begun from a run. -/
structure Point (h : Log m r) (s : Frame m r) : Prop where
  begun : ∃ h₀ s₀, Run h₀ s₀ ∧ Path h₀ s₀.fresh h s
  sound : s.Sound

/-- The event of the transport was met at a point, and `h` shows what it did. -/
structure Met (h : Log m r) (event : SessionEvent) (h₀ : Log m r) (f : Frame m r) : Prop where
  point : Point h₀ f
  current : f.sessions.current = some event.sessionId
  effect : ∃ h₁ s₁ result, EventEffect event h₀ f h₁ s₁ result ∧ h₁ <:+ h

theorem Met.later {event : SessionEvent} (hmet : Met h event h₀ f) (hsuffix : h <:+ h') : Met h' event h₀ f := by
  obtain ⟨h₁, s₁, result, heffect, hbefore⟩ := hmet.effect
  exact ⟨hmet.point, hmet.current, h₁, s₁, result, heffect, hbefore.trans hsuffix⟩

theorem Move.met {terminal : Option WorkerCoreError} {event : SessionEvent} (hmove : Move h s terminal h' s')
    (hpoint : Point h s) (hsuffix : .emit f (.processed (some event)) :: h₀ <:+ h') :
    .emit f (.processed (some event)) :: h₀ <:+ h ∨ Met h' event h₀ f := by
  have hnot : ¬ Plain (m := m) (r := r) (.emit f (.processed (some event))) := fun hplain => nomatch hplain.processed
  rcases hmove.plain with hplain | ⟨command, s₁, progress, hplain, -⟩ | ⟨event', result, hplain, heffect, hcurrent⟩
  · exact .inl (hplain.before hsuffix hnot)
  · rcases List.suffix_cons_iff.1 (hplain.before hsuffix hnot) with heq | hbefore
    · cases heq
    · exact .inl hbefore
  · rcases List.suffix_cons_iff.1 (hplain.before hsuffix hnot) with heq | hbefore
    · cases heq
      exact .inr ⟨hpoint, hcurrent, h', s', result, heffect, List.suffix_refl _⟩
    · exact .inl hbefore

theorem Path.met {event : SessionEvent} (hpath : Path h s.fresh h' s') (hrun : Run h s)
    (hsuffix : .emit f (.processed (some event)) :: h₀ <:+ h') :
    .emit f (.processed (some event)) :: h₀ <:+ h ∨ Met h' event h₀ f := by
  induction hpath with
  | refl => exact .inl hsuffix
  | move hpath hsound hmove ih =>
    rcases hmove.met ⟨⟨_, _, hrun, hpath⟩, hsound⟩ hsuffix with hbefore | hmet
    · rcases ih hbefore with hbefore | hmet
      · exact .inl hbefore
      · exact .inr (hmet.later hmove.suffix)
    · exact .inr hmet

theorem Adds.met {event : SessionEvent} (hadds : Adds Plain h₁ h')
    (hlocated : ∀ f h₀, .emit f (.processed (some event)) :: h₀ <:+ h₁ →
      .emit f (.processed (some event)) :: h₀ <:+ h ∨ Met h₁ event h₀ f)
    (hsuffix : .emit f (.processed (some event)) :: h₀ <:+ h') :
    .emit f (.processed (some event)) :: h₀ <:+ h ∨ Met h' event h₀ f := by
  have hnot : ¬ Plain (m := m) (r := r) (.emit f (.processed (some event))) := fun hplain => nomatch hplain.processed
  rcases hlocated f h₀ (hadds.before hsuffix hnot) with hbefore | hmet
  · exact .inl hbefore
  · exact .inr (hmet.later hadds.suffix)

theorem StepEffect.met {event : SessionEvent} {step : WorkerStep} (he : StepEffect h s h' s' step) (hrun : Run h s)
    (hsuffix : .emit f (.processed (some event)) :: h₀ <:+ h') :
    .emit f (.processed (some event)) :: h₀ <:+ h ∨ Met h' event h₀ f := by
  have hmoved : ∀ {h₁ h₂ : Log m r} {s₁ s₂ : Frame m r} {terminal : Option WorkerCoreError},
      Path h s.fresh h₁ s₁ → s₁.Sound → Move h₁ s₁ terminal h₂ s₂ → ∀ f h₀,
      .emit f (.processed (some event)) :: h₀ <:+ h₂ →
        .emit f (.processed (some event)) :: h₀ <:+ h ∨ Met h₂ event h₀ f := by
    intro h₁ h₂ s₁ s₂ terminal hpath hsound hmove f h₀ hsuffix
    rcases hmove.met ⟨⟨_, _, hrun, hpath⟩, hsound⟩ hsuffix with hbefore | hmet
    · rcases hpath.met hrun hbefore with hbefore | hmet
      · exact .inl hbefore
      · exact .inr (hmet.later hmove.suffix)
    · exact .inr hmet
  cases he with
  | continued hpath hsound => exact hpath.met hrun hsuffix
  | closed hpath hsound₁ hlast hsound hclose =>
    refine Adds.met (((Adds.single ⟨rfl, rfl⟩).cons ⟨rfl, rfl⟩).trans hclose.plain) ?_ hsuffix
    cases hlast with
    | none => exact fun f h₀ hbefore => hpath.met hrun hbefore
    | terminal hmove => exact hmoved hpath hsound₁ hmove
  | failed hpath hsound₁ hmove hsound hfail =>
    cases hfail
    exact Adds.met ((Adds.single ⟨rfl, rfl⟩).cons ⟨rfl, rfl⟩) (hmoved hpath hsound₁ hmove) hsuffix

/-- Every event of the transport that a run has processed was met at a point of it. -/
theorem Run.met {event : SessionEvent} (hrun : Run h s) (hsuffix : .emit f (.processed (some event)) :: h₀ <:+ h) :
    Met h event h₀ f := by
  induction hrun with
  | opened hnew =>
    rcases List.suffix_cons_iff.1 hsuffix with heq | hbefore
    · cases heq
    · cases List.suffix_nil.1 hbefore
  | step hrun hexec ih =>
    rcases (hexec.post (stepRuntime_spec _ _ hrun.coherent)).met hrun hsuffix with hbefore | hmet
    · exact (ih hbefore).later hexec.suffix
    · exact hmet

theorem Trace.met {event : SessionEvent} (htrace : Trace h s)
    (hsuffix : .emit f (.processed (some event)) :: h₀ <:+ h) : Met h event h₀ f := by
  have hnot : ¬ Plain (m := m) (r := r) (.emit f (.processed (some event))) := fun hplain => nomatch hplain.processed
  cases htrace with
  | running hrun => exact hrun.met hsuffix
  | stepped hrun hexec =>
    rcases (hexec.post (stepRuntime_spec _ _ hrun.coherent)).met hrun hsuffix with hbefore | hmet
    · exact (hrun.met hbefore).later hexec.suffix
    · exact hmet
  | abandoned hrun hexec =>
    have hplain := (hexec.post (completeWorkerFailure_spec _ _ _)).plain
    exact (hrun.met (hplain.before hsuffix hnot)).later hplain.suffix
  | failed hrun hstep hexec =>
    have hplain := (hexec.post (completeWorkerFailure_spec _ _ _)).plain
    rcases (hstep.post (stepRuntime_spec _ _ hrun.coherent)).met hrun (hplain.before hsuffix hnot) with hbefore | hmet
    · exact (hrun.met hbefore).later (hstep.suffix.trans hplain.suffix)
    · exact hmet.later hplain.suffix

end Swbt
