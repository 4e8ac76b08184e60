import Swbt.Runtime.Terminal
/-!
# Answers that tell of the worker's end

A Pair or Reconnect command is told of the end of its worker only by the step
in which the worker fails, and with the error that is pending with it then.
-/

set_option autoImplicit false

open Effects

namespace Swbt

variable {m : ControllerKind} {r : ReportingKind} {h h₀ h₁ h' : Log m r} {s s₁ s' : Frame m r}

/-! ## Results -/

/-- The failures of a connection command that stand for the worker's own. -/
def ConnectionCommandFailure.blamesWorker : ConnectionCommandFailure → Bool
  | .invalidKeyStore | .workerFailed => true
  | .begin _ | .readiness _ => false

def WorkerCommandError.blamesWorker : WorkerCommandError → Bool
  | .connection error => error.failure.blamesWorker
  | _ => false

def blamesWorker : CommandResult → Bool
  | .ok () => false
  | .error error => error.blamesWorker

/-- The result so far does not tell of the worker's end. -/
def Frame.Unblamed (s : Frame m r) : Prop :=
  ∀ result, s.progress.commandResult = some result → blamesWorker result = false

theorem Frame.Unblamed.congr (hs : s.Unblamed) (hresult : s'.progress.commandResult = s.progress.commandResult) :
    s'.Unblamed := by
  intro result hsome
  exact hs result (hresult.symm.trans hsome)

theorem Frame.unblamed_answer (s : Frame m r) {result : CommandResult} (hresult : blamesWorker result = false) :
    (s.answer result).Unblamed := by
  intro result' hsome
  cases hsome
  exact hresult

theorem Frame.Unblamed.complete (hs : s.Unblamed) {result : CommandResult} (hresult : blamesWorker result = false) :
    (s.complete result).Unblamed := by
  unfold Frame.complete
  split
  · exact hs
  · exact (Frame.unblamed_answer { s with connectionCommandPending := none } hresult).congr rfl

theorem Frame.Unblamed.failConnection (hs : s.Unblamed) (error : ReadinessError) : (s.failConnection error).Unblamed := by
  unfold Frame.failConnection Frame.completeFailure
  split
  · exact hs.congr rfl
  · exact (hs.complete rfl).congr rfl

theorem Frame.Unblamed.abort (hs : s.Unblamed) (error : ReadinessError) : (s.abort error).Unblamed :=
  (hs.failConnection error).congr rfl

theorem Frame.Unblamed.disconnect (hs : s.Unblamed) (reason : Option UInt8) : (s.disconnect reason).Unblamed := by
  have hcut : (s.cutTap reason).Unblamed := by
    unfold Frame.cutTap
    split
    · exact hs
    · have hresult : blamesWorker (.error (disconnectError r reason)) = false := by
        cases r with
        | periodic => rfl
        | direct => rfl
      exact (Frame.unblamed_answer (s.setTap none) hresult).congr rfl
  have hconnection : ((s.cutTap reason).cutConnection reason).Unblamed := by
    unfold Frame.cutConnection
    split
    · exact hcut
    · exact Frame.Unblamed.failConnection (s := (s.cutTap reason).takeConnection) (hcut.congr rfl) _
  exact hconnection.congr rfl

/-- Progress that does not tell of the worker's end. -/
def WorkerCommandProgress.Unblamed (progress : WorkerCommandProgress) : Prop :=
  ∀ result, progress = .complete result → blamesWorker result = false

theorem WorkerCommandProgress.Unblamed.nonterminal {progress : WorkerCommandProgress} (hprogress : progress.Unblamed) :
    (nonterminalCommandProgress progress).1.Unblamed := by
  have hdirect : ∀ error : DirectTapError,
      WorkerCommandProgress.Unblamed (.complete (.error (.direct error))) := by
    rintro error result ⟨⟩
    rfl
  unfold nonterminalCommandProgress
  split
  · split
    · exact hdirect _
    · exact hdirect _
  · rintro result ⟨⟩
    rfl
  · exact hprogress

theorem Frame.Unblamed.settle (hs : s.Unblamed) {progress : WorkerCommandProgress} (hprogress : progress.Unblamed) :
    (s.settle progress).Unblamed := by
  cases progress with
  | pending => exact hs
  | complete result => exact Frame.unblamed_answer s (hprogress result rfl)

/-! ## Moves -/

theorem InputEffect.unblamed {command : ReportingCommand m r} {t : Duration} {progress : WorkerCommandProgress}
    (he : InputEffect command t h s h' s' progress) : progress.Unblamed := by
  cases he with
  | rejected herror hplan =>
    rename_i error
    rintro result ⟨⟩
    cases error with
    | connection error => exact absurd herror id
    | _ => rfl
  | committed hr candidate hplan =>
    rintro result ⟨⟩
    rfl
  | sent hr hready hsent hplan =>
    rintro result ⟨⟩
    rfl
  | unsent hr hready hsent hplan =>
    rintro result ⟨⟩
    rfl
  | pressedDirect hr hready hsent hplan => exact fun result heq => nomatch heq
  | pressedPeriodic hr hready hsent hresult hplan => exact fun result heq => nomatch heq
  | unpressed hr hready hsent hkind hplan =>
    rintro result ⟨⟩
    rfl

theorem InputEffect.kept {command : ReportingCommand m r} {t : Duration} {progress : WorkerCommandProgress}
    (he : InputEffect command t h s h' s' progress) :
    s'.connectionCommandPending = s.connectionCommandPending ∧
      s'.progress.commandResult = s.progress.commandResult := by
  cases he with
  | rejected herror hplan => exact ⟨rfl, rfl⟩
  | committed hr candidate hplan => exact ⟨rfl, rfl⟩
  | sent hr hready hsent hplan => exact ⟨hsent.sameCommand.command, hsent.sameCommand.result⟩
  | unsent hr hready hsent hplan => exact ⟨hsent.sameCommand.command, hsent.sameCommand.result⟩
  | pressedDirect hr hready hsent hplan => exact ⟨hsent.sameCommand.command, hsent.sameCommand.result⟩
  | pressedPeriodic hr hready hsent hresult hplan => exact ⟨hsent.sameCommand.command, hsent.sameCommand.result⟩
  | unpressed hr hready hsent hkind hplan =>
    have hsame := PeriodicSent.sameCommand hsent
    exact ⟨hsame.command, hsame.result⟩

theorem CommandEffect.unblamed {command : RuntimeCommand m r} {progress : WorkerCommandProgress}
    (he : CommandEffect h s command h' s' progress) (hs : s.Unblamed) : progress.Unblamed ∧ s'.Unblamed := by
  cases he with
  | unstarted =>
    refine ⟨?_, hs⟩
    rintro result ⟨⟩
    rfl
  | refused hopen =>
    refine ⟨?_, hs⟩
    rintro result ⟨⟩
    rfl
  | begun hopen => exact ⟨fun result heq => (nomatch heq), hs.congr rfl⟩
  | ended hended =>
    refine ⟨?_, hs⟩
    rintro result ⟨⟩
    rfl
  | input heffect => exact ⟨heffect.unblamed, hs.congr heffect.kept.2⟩

theorem EventEffect.unblamed {event : SessionEvent} {result : Except WorkerCoreError Bool}
    (he : EventEffect event h s h' s' result) (hs : s.Unblamed) : s'.Unblamed := by
  cases he with
  | dropped hstale => exact hs
  | connected hcurrent hevent => exact hs.congr rfl
  | opened hcurrent hevent => exact hs.congr rfl
  | answered hcurrent hevent hheld hanswered =>
    obtain ⟨-, -, -, -, -, -, -, hprogress⟩ := hanswered.keeps
    have hresult := congrArg StepProgress.commandResult hprogress
    exact hs.congr hresult
  | disconnected hcurrent hevent => exact hs.disconnect _

theorem DriveEffect.unblamed {t : Duration} {result : Except WorkerCoreError Nat}
    (he : DriveEffect t h s h' s' result) (hsound : s.Sound) (hs : s.Unblamed) : s'.Unblamed := by
  have htaken : s.takeConnection.Unblamed := hs.congr rfl
  cases he with
  | idle hnone => exact hs
  | aborted hwork hinactive => exact htaken.abort _
  | failed hwork hactive hhandshake =>
    have hconnecting := hsound.coherent.of_connection hwork
    obtain ⟨hsame, -, -, -⟩ := hhandshake.sameControl hconnecting.work
    exact htaken.congr hsame.result
  | pending hwork hactive hhandshake hevaluated hresult =>
    have hconnecting := hsound.coherent.of_connection hwork
    obtain ⟨hsame₁, -, hwork₁, -⟩ := hhandshake.sameControl hconnecting.work
    obtain ⟨hsame₂, -, -, -⟩ := hevaluated.sameControl hwork₁
    exact htaken.congr (hsame₁.trans hsame₂).result
  | ready hwork hactive hhandshake hevaluated hresult =>
    have hconnecting := hsound.coherent.of_connection hwork
    obtain ⟨hsame₁, -, hwork₁, -⟩ := hhandshake.sameControl hconnecting.work
    obtain ⟨hsame₂, -, -, -⟩ := hevaluated.sameControl hwork₁
    have hafter := htaken.congr (hsame₁.trans hsame₂).result
    exact Frame.Unblamed.complete (s := Frame.markReady _) (hafter.congr rfl) rfl
  | evaluationFailed hwork hactive hhandshake hevaluated hresult =>
    have hconnecting := hsound.coherent.of_connection hwork
    obtain ⟨hsame₁, -, hwork₁, -⟩ := hhandshake.sameControl hconnecting.work
    obtain ⟨hsame₂, -, -, -⟩ := hevaluated.sameControl hwork₁
    exact Frame.Unblamed.abort (htaken.congr (hsame₁.trans hsame₂).result) _

theorem Released.unblamed {tap : Tap m} {t : Duration} {result : CommandResult}
    (hreleased : Released tap t h s h' s' result) :
    blamesWorker result = false ∧ s'.progress.commandResult = s.progress.commandResult := by
  cases hreleased with
  | periodic hr hsent =>
    refine ⟨?_, hsent.sameCommand.result⟩
    rename_i result
    cases hreleaseError : releaseError tap.firstError result with
    | ok released => rfl
    | error error => rfl
  | direct hr hsent =>
    refine ⟨?_, hsent.sameCommand.result⟩
    rename_i result
    cases result with
    | ok accepted => rfl
    | error error => rfl

theorem DueEffect.unblamed {t : Duration} {due : ReportingDue} (he : DueEffect t h s h' s' due) (hs : s.Unblamed) :
    (s'.recordDue due).Unblamed := by
  have hidle : due.completion = none → s'.progress.commandResult = s.progress.commandResult →
      (s'.recordDue due).Unblamed := by
    intro hnone hresult
    unfold Frame.recordDue
    rw [hnone]
    exact hs.congr hresult
  cases he with
  | quiet htap hpolicy => exact hidle rfl rfl
  | failed hpolicy herror => exact hidle rfl rfl
  | backpressured htap hpolicy hticks => exact hidle rfl rfl
  | automatic hpolicy hticks hsent herrors => exact hidle rfl (Sent.sameControl hsent).result
  | released htap hdue hreleased =>
    rename_i tap result
    obtain ⟨hresult, hkept⟩ := hreleased.unblamed
    have hprogress : WorkerCommandProgress.Unblamed (.complete result) := by
      rintro result ⟨⟩
      exact hresult
    have hcounted : (s'.countDue ⟨1, true, some (.complete result), []⟩).Unblamed := hs.congr hkept
    exact (hcounted.settle hprogress.nonterminal).congr rfl

theorem Move.unblamed {terminal : Option WorkerCoreError} (hmove : Move h s terminal h' s') (hsound : s.Sound)
    (hs : s.Unblamed) : s'.Unblamed := by
  cases hmove with
  | unrequested => exact hs
  | noCommand hcommand htap => exact hs
  | polled => exact hs
  | pollFailed => exact hs
  | untagged => exact hs
  | progress hresult => exact hs.congr hresult
  | command hcommand htap hresult heffect =>
    obtain ⟨hprogress, hs'⟩ := heffect.unblamed (hs.congr rfl)
    exact hs'.settle hprogress.nonterminal
  | event heffect => exact heffect.unblamed hs
  | drive heffect => exact heffect.unblamed hsound hs
  | due hallowed heffect => exact heffect.unblamed hs

/-- A step that goes on tells no command of the end of its worker. -/
theorem Path.unblamed (hpath : Path h s h' s') (hs : s.Unblamed) : s'.Unblamed := by
  induction hpath with
  | refl => exact hs
  | move hpath hsound hmove ih => exact hmove.unblamed hsound ih

/-! ## Where a worker fails -/

/-- If the event is fatal, it is met with this command pending. -/
def MetWith (command : Option ConnectionCommandKind) (e : LogEvent m r) : Prop :=
  fatalError e = none ∨ e.state.connectionCommandPending = command

variable {command : Option ConnectionCommandKind}

theorem Sent.metWith {bytes : List UInt8} {candidate : SenderCommit} {result : TransportResult Unit}
    (hsent : Sent bytes candidate h s h' s' result) (hcommand : s.connectionCommandPending = command) :
    Adds (MetWith command) h h' := by
  cases hsent with
  | refused error => exact .single (.inr hcommand)
  | accepted => exact (Adds.single (.inr hcommand)).cons (.inl rfl)

theorem DirectSent.metWith {candidate : InputState m} {nowNs : UInt64} {result : TransportResult Unit}
    (hsent : DirectSent candidate nowNs h s h' s' result) (hcommand : s.connectionCommandPending = command) :
    Adds (MetWith command) h h' := by
  cases hsent with
  | refused hsent => exact Sent.metWith hsent hcommand
  | accepted hsent => exact (Sent.metWith hsent hcommand).cons (.inl rfl)

theorem PeriodicSent.metWith {candidate : InputState m} {nowNs : UInt64} {result : TransportResult Unit}
    (hsent : PeriodicSent candidate nowNs h s h' s' result) (hcommand : s.connectionCommandPending = command) :
    Adds (MetWith command) h h' :=
  (Adds.single (.inl rfl)).trans (Sent.metWith (s := s.commit candidate) hsent hcommand)

theorem InputEffect.metWith {input : ReportingCommand m r} {t : Duration} {progress : WorkerCommandProgress}
    (he : InputEffect input t h s h' s' progress) (hcommand : s.connectionCommandPending = command) :
    Adds (MetWith command) h h' := by
  cases he with
  | rejected herror hplan => exact .refl
  | committed hr candidate hplan => exact .single (.inl rfl)
  | sent hr hready hsent hplan => exact hsent.metWith hcommand
  | unsent hr hready hsent hplan => exact hsent.metWith hcommand
  | pressedDirect hr hready hsent hplan => exact hsent.metWith hcommand
  | pressedPeriodic hr hready hsent hresult hplan => exact hsent.metWith hcommand
  | unpressed hr hready hsent hkind hplan => exact hsent.metWith hcommand

theorem Released.metWith {tap : Tap m} {t : Duration} {result : CommandResult}
    (hreleased : Released tap t h s h' s' result) (hcommand : s.connectionCommandPending = command) :
    Adds (MetWith command) h h' ∧ s'.connectionCommandPending = command := by
  cases hreleased with
  | periodic hr hsent => exact ⟨hsent.metWith hcommand, hsent.sameCommand.command.trans hcommand⟩
  | direct hr hsent => exact ⟨hsent.metWith hcommand, hsent.sameCommand.command.trans hcommand⟩

/-- A command with a terminal result is an input command. -/
theorem CommandEffect.metWith {taken : RuntimeCommand m r} {progress : WorkerCommandProgress} {error : WorkerCoreError}
    (he : CommandEffect h s taken h' s' progress) (hterminal : (nonterminalCommandProgress progress).2 = some error)
    (hcommand : s.connectionCommandPending = command) :
    Adds (MetWith command) h h' ∧ s'.connectionCommandPending = command := by
  cases he with
  | unstarted => cases hterminal
  | refused hopen => cases hterminal
  | begun hopen => cases hterminal
  | ended hended => cases hterminal
  | input heffect =>
    exact ⟨(Adds.single (.inl rfl)).trans (heffect.metWith hcommand), heffect.kept.1.trans hcommand⟩

theorem Answered.metWith {channel : HidChannel} {raw : List UInt8} {current : InputState m}
    {completion : Except OutputHandlingError OutputHandling}
    (ha : Answered channel raw current h s h' s' completion) (hcommand : s.connectionCommandPending = command) :
    Adds (MetWith command) h h' := by
  cases ha with
  | malformed hparse => exact .refl
  | rumble hparse => exact .single (.inl rfl)
  | unprepared hparse hprepare => exact (Adds.single (.inl rfl)).cons (.inl rfl)
  | replied hparse hprepare hsent =>
    exact ((Adds.single (.inl rfl)).cons (.inl rfl)).trans (hsent.metWith hcommand)

theorem HandshakeDriven.metWith {work : ConnectionWork} {t : Duration} {a : Except WorkerCoreError Nat × ConnectionWork}
    (hd : HandshakeDriven work t h s h' s' a) (hcommand : s.connectionCommandPending = command) :
    Adds (MetWith command) h h' := by
  rcases hd.sends with rfl | ⟨s₁, result, hsent⟩
  · exact .refl
  · exact Sent.metWith hsent hcommand

theorem Frame.settle_command (s : Frame m r) (progress : WorkerCommandProgress) :
    (s.settle progress).connectionCommandPending = s.connectionCommandPending := by
  cases progress with
  | pending => rfl
  | complete result => rfl

theorem DueEffect.metWith {t : Duration} {due : ReportingDue} (he : DueEffect t h s h' s' due)
    (hcommand : s.connectionCommandPending = command) :
    Adds (MetWith command) h h' ∧ (s'.recordDue due).connectionCommandPending = command := by
  cases he with
  | quiet htap hpolicy => exact ⟨.refl, hcommand⟩
  | failed hpolicy herror => exact ⟨.refl, hcommand⟩
  | backpressured htap hpolicy hticks => exact ⟨.single (.inl rfl), hcommand⟩
  | automatic hpolicy hticks hsent herrors =>
    have hkept := (Sent.sameControl hsent).command
    exact ⟨(Adds.single (.inl rfl)).trans (Sent.metWith hsent hcommand), hkept.trans hcommand⟩
  | released htap hdue hreleased =>
    obtain ⟨hadds, hkept⟩ := hreleased.metWith (s := s.setTap none) hcommand
    exact ⟨hadds, (Frame.settle_command _ _).trans hkept⟩

/-- The command that was pending when the worker came to its end still is. -/
theorem Move.metWith {error : WorkerCoreError} (hmove : Move h s (some error) h' s') (hs : s.Sound) :
    Adds (MetWith s.connectionCommandPending) h h' ∧ s'.connectionCommandPending = s.connectionCommandPending := by
  generalize hterminal : some error = terminal at hmove
  cases hmove with
  | unrequested => cases hterminal
  | noCommand hcommand htap => cases hterminal
  | polled => cases hterminal
  | pollFailed => exact ⟨.single (.inr rfl), rfl⟩
  | untagged => cases hterminal
  | progress hresult => cases hterminal
  | command hcommand htap hresult heffect =>
    have hcounted : s.countCommand.connectionCommandPending = s.connectionCommandPending := rfl
    obtain ⟨hadds, hkept⟩ := heffect.metWith hterminal.symm hcounted
    exact ⟨(Adds.single (.inl rfl)).trans hadds, (Frame.settle_command _ _).trans hkept⟩
  | event heffect =>
    cases heffect with
    | dropped hstale => cases hterminal
    | connected hcurrent hevent => cases hterminal
    | opened hcurrent hevent => cases hterminal
    | disconnected hcurrent hevent => cases hterminal
    | answered hcurrent hevent hheld hanswered =>
      obtain ⟨-, -, -, hkept, -⟩ := hanswered.keeps
      have hadds := (Adds.single (.inl rfl)).trans (hanswered.metWith rfl)
      exact ⟨hadds.cons (.inl rfl), hkept⟩
  | drive heffect =>
    cases heffect with
    | idle hnone => cases hterminal
    | aborted hwork hinactive => cases hterminal
    | pending hwork hactive hhandshake hevaluated hresult => cases hterminal
    | ready hwork hactive hhandshake hevaluated hresult => cases hterminal
    | evaluationFailed hwork hactive hhandshake hevaluated hresult => cases hterminal
    | failed hwork hactive hhandshake =>
      have hconnecting := hs.coherent.of_connection hwork
      obtain ⟨hsame, -⟩ := hhandshake.sameControl hconnecting.work
      exact ⟨(Adds.single (.inl rfl)).trans (hhandshake.metWith rfl), hsame.command⟩
  | due hallowed heffect =>
    have hunchanged : s.connectionCommandPending = s.connectionCommandPending := rfl
    obtain ⟨hadds, hkept⟩ := heffect.metWith hunchanged
    exact ⟨(Adds.single (.inl rfl)).trans hadds, hkept⟩

end Swbt
