import Swbt.Runtime.Run
/-!
# Terminal transport errors

A poll that fails and a send that fails with anything but a rejection are
fatal. Every move ends in a terminal transport error exactly when its one
poll or send was fatal, whichever of the wrappers the error went through.
-/

set_option autoImplicit false

open Effects

namespace Swbt

variable {m : ControllerKind} {r : ReportingKind} {h h₁ h' : Log m r} {s s₁ s' : Frame m r}

/-! ## Fatal events -/

/-- The error of a send that cannot go on. -/
def fatalResult : TransportResult Unit → Option TransportError
  | .ok () => none
  | .error error => if error.kind = .sendRejected then none else some error

/-- The error of a poll or a send that cannot go on. -/
def fatalError : LogEvent m r → Option TransportError
  | .call _ (.poll _) (.error error) => some error
  | .call _ (.sendInterrupt _) result => fatalResult result
  | _ => none

/-- The fatal errors of a log, the latest first. -/
def Log.fatals (h : Log m r) : List TransportError := h.filterMap fatalError

/-- The transport error a worker fails with. -/
def WorkerCoreError.transportError : WorkerCoreError → Option TransportError
  | transport error => some error
  | _ => none

theorem Log.fatals_cons {e : LogEvent m r} (hmild : fatalError e = none) (h : Log m r) :
    Log.fatals (e :: h) = h.fatals := List.filterMap_cons_none hmild

/-- A tap only goes on after a press that was rejected, not one that failed. -/
def Frame.Mild (s : Frame m r) : Prop :=
  ∀ tap, s.reporting.tap = some tap → ∀ error, tap.firstError = some error → error.kind = .sendRejected

/-! ## Sends -/

theorem Sent.fatals {bytes : List UInt8} {candidate : SenderCommit} {result : TransportResult Unit}
    (hsent : Sent bytes candidate h s h' s' result) : h'.fatals = (fatalResult result).toList ++ h.fatals := by
  cases hsent with
  | accepted => rfl
  | refused error =>
    have hevent : fatalError (.call s (Op.sendInterrupt bytes) (.error error)) = fatalResult (.error error) := rfl
    unfold Log.fatals
    rw [List.filterMap_cons, hevent]
    cases fatalResult (.error error) <;> rfl

theorem DirectSent.fatals {candidate : InputState m} {nowNs : UInt64} {result : TransportResult Unit}
    (hsent : DirectSent candidate nowNs h s h' s' result) :
    h'.fatals = (fatalResult result).toList ++ h.fatals := by
  cases hsent with
  | accepted hsent => exact (Log.fatals_cons rfl _).trans (Sent.fatals hsent)
  | refused hsent => exact Sent.fatals hsent

theorem PeriodicSent.fatals {candidate : InputState m} {nowNs : UInt64} {result : TransportResult Unit}
    (hsent : PeriodicSent candidate nowNs h s h' s' result) :
    h'.fatals = (fatalResult result).toList ++ h.fatals := by
  have hfatals := Sent.fatals hsent
  rwa [Log.fatals_cons rfl] at hfatals

/-! ## Commands -/

/-- The terminal transport error of a command's progress. -/
def WorkerCommandProgress.fatal (progress : WorkerCommandProgress) : Option TransportError :=
  (nonterminalCommandProgress progress).2.bind WorkerCoreError.transportError

theorem fatal_direct (error : TransportError) :
    WorkerCommandProgress.fatal (.complete (.error (.direct (.transport error)))) = fatalResult (.error error) := by
  unfold WorkerCommandProgress.fatal nonterminalCommandProgress fatalResult
  by_cases hkind : error.kind = .sendRejected
  · simp [hkind]
  · simp [hkind, WorkerCoreError.transportError]

theorem fatal_periodic (error : TransportError) :
    WorkerCommandProgress.fatal (.complete (.error (.periodic (.transport error none)))) =
      fatalResult (.error error) := by
  unfold WorkerCommandProgress.fatal nonterminalCommandProgress classifyPeriodicError fatalResult
  by_cases hkind : error.kind = .sendRejected
  · simp [hkind]
  · simp [hkind, WorkerCoreError.transportError]

theorem fatal_rejection {error : WorkerCommandError} (herror : error.Rejection) :
    WorkerCommandProgress.fatal (.complete (.error error)) = none := by
  cases error with
  | input error => rfl
  | lifecycle error => cases herror
  | connection error => cases herror
  | shutdown => cases herror
  | disconnected => cases herror
  | periodic error =>
    cases error with
    | notReady => rfl
    | scheduler error => cases herror
    | transport error later => cases herror
  | direct error =>
    cases error with
    | notReady => rfl
    | transport error => cases herror
    | interrupted interruption => cases herror

theorem InputEffect.fatals {command : ReportingCommand m r} {t : Duration} {progress : WorkerCommandProgress}
    (he : InputEffect command t h s h' s' progress) : h'.fatals = progress.fatal.toList ++ h.fatals := by
  cases he with
  | rejected herror hplan =>
    rw [fatal_rejection herror]
    rfl
  | committed hr candidate hplan => exact Log.fatals_cons rfl h
  | sent hr hready hsent hplan => exact hsent.fatals
  | unsent hr hready hsent hplan =>
    rw [fatal_direct]
    exact hsent.fatals
  | pressedDirect hr hready hsent hplan => exact hsent.fatals
  | pressedPeriodic hr hready hsent hresult hplan =>
    rw [hsent.fatals]
    rcases hresult with ⟨rfl, -⟩ | ⟨error, rfl, hkind, -⟩
    · rfl
    · rw [fatalResult, if_pos hkind]
      rfl
  | unpressed hr hready hsent hkind hplan =>
    rw [fatal_periodic]
    exact hsent.fatals

theorem CommandEffect.fatals {command : RuntimeCommand m r} {progress : WorkerCommandProgress}
    (he : CommandEffect h s command h' s' progress) : h'.fatals = progress.fatal.toList ++ h.fatals := by
  have hstart : ∀ (kind : ConnectionCommandKind) (result : TransportResult Unit),
      Log.fatals (startEvent kind s result :: h) = h.fatals := by
    intro kind result
    cases kind with
    | pair => exact Log.fatals_cons rfl h
    | reconnect => exact Log.fatals_cons rfl h
  cases he with
  | unstarted => exact hstart _ _
  | refused hopen => exact (Log.fatals_cons rfl _).trans (hstart _ _)
  | begun hopen =>
    rw [Frame.beginLog, Log.fatals_cons rfl, Log.fatals_cons rfl, Log.fatals_cons rfl, Log.fatals_cons rfl]
    exact hstart _ _
  | ended hended => rfl
  | input heffect =>
    rw [heffect.fatals, Log.fatals_cons rfl]

/-! ## Events -/

theorem Answered.fatals {channel : HidChannel} {raw : List UInt8} {current : InputState m}
    {completion : Except OutputHandlingError OutputHandling}
    (ha : Answered channel raw current h s h' s' completion) :
    h'.fatals = ((terminalError (completionResult completion)).bind WorkerCoreError.transportError).toList ++
      h.fatals := by
  cases ha with
  | malformed hparse => rfl
  | rumble hparse => exact Log.fatals_cons rfl h
  | unprepared hparse hprepare => exact (Log.fatals_cons rfl _).trans (Log.fatals_cons rfl h)
  | replied hparse hprepare hsent =>
    rw [hsent.fatals, Log.fatals_cons rfl, Log.fatals_cons rfl]
    rename_i packetId bytes request action result
    cases result with
    | ok accepted => rfl
    | error error =>
      unfold fatalResult replyOutcome completionResult
      by_cases hkind : error.kind = .sendRejected
      · simp [hkind, terminalError]
      · simp [hkind, terminalError, WorkerCoreError.transportError]

theorem EventEffect.fatals {event : SessionEvent} {result : Except WorkerCoreError Bool}
    (he : EventEffect event h s h' s' result) :
    h'.fatals = ((terminalError result).bind WorkerCoreError.transportError).toList ++ h.fatals := by
  cases he with
  | dropped hstale => exact Log.fatals_cons rfl h
  | connected hcurrent hevent => exact (Log.fatals_cons rfl _).trans (Log.fatals_cons rfl h)
  | opened hcurrent hevent => exact Log.fatals_cons rfl h
  | answered hcurrent hevent hheld hanswered =>
    rw [Log.fatals_cons rfl, hanswered.fatals, Log.fatals_cons rfl]
  | disconnected hcurrent hevent => exact (Log.fatals_cons rfl _).trans (Log.fatals_cons rfl h)

/-! ## Drives -/

theorem HandshakeDriven.fatals {work : ConnectionWork} {t : Duration}
    {a : Except WorkerCoreError Nat × ConnectionWork} (hd : HandshakeDriven work t h s h' s' a) :
    h'.fatals = ((terminalError a.1).bind WorkerCoreError.transportError).toList ++ h.fatals := by
  cases hd with
  | collected hnone => rfl
  | overflow hsome heffect => cases heffect; rfl
  | stepped hsome heffect =>
    cases heffect with
    | stopped hstopped => rfl
    | waitingForTopology hrunning htopology => rfl
    | observed hrunning htopology haccepted hsatisfied => rfl
    | waiting hattempting hretry hlt => rfl
    | attempted hattempting hscheduled hsent =>
      rw [Sent.fatals hsent]
      rename_i result
      cases result with
      | ok accepted => rfl
      | error error =>
        unfold fatalResult HandshakeProgress.outcome
        by_cases hkind : error.kind = .sendRejected
        · simp [hkind, terminalError]
        · simp [hkind, terminalError, WorkerCoreError.transportError]

theorem Evaluated.log {gate : ReadinessGate} {t : Duration} {handshake : Option Handshake} {evaluation : Evaluation}
    (he : Evaluated gate t handshake h s h' s' evaluation) : h' = h := by
  cases he <;> rfl

theorem DriveEffect.fatals {t : Duration} {result : Except WorkerCoreError Nat}
    (he : DriveEffect t h s h' s' result) :
    h'.fatals = ((terminalError result).bind WorkerCoreError.transportError).toList ++ h.fatals := by
  cases he with
  | idle hnone => rfl
  | aborted hwork hinactive => exact Log.fatals_cons rfl h
  | failed hwork hactive hhandshake => exact hhandshake.fatals
  | pending hwork hactive hhandshake hevaluated hresult =>
    rw [hevaluated.log]
    exact hhandshake.fatals
  | ready hwork hactive hhandshake hevaluated hresult =>
    rw [Log.fatals_cons rfl, hevaluated.log]
    exact hhandshake.fatals
  | evaluationFailed hwork hactive hhandshake hevaluated hresult =>
    rw [Log.fatals_cons rfl, hevaluated.log]
    exact hhandshake.fatals

/-! ## Due actions -/

theorem DueEffect.fatals {t : Duration} {due : ReportingDue} (he : DueEffect t h s h' s' due) (hmild : s.Mild) :
    h'.fatals = (due.terminal.bind WorkerCoreError.transportError).toList ++ h.fatals := by
  cases he with
  | quiet htap hpolicy => rfl
  | failed hpolicy herror =>
    rcases herror with ⟨rfl, -⟩ | ⟨e, rfl⟩
    · rfl
    · rfl
  | backpressured htap hpolicy hticks => exact Log.fatals_cons rfl h
  | automatic hpolicy hticks hsent herrors =>
    rw [Sent.fatals hsent, Log.fatals_cons rfl, herrors]
    rename_i result errors
    cases result with
    | ok accepted => rfl
    | error error =>
      unfold fatalResult ReportingDue.terminal nonterminalOperationError classifyPeriodicError
      by_cases hkind : error.kind = .sendRejected
      · simp [hkind]
      · simp [hkind, WorkerCoreError.transportError]
  | released htap hdue hreleased =>
    cases hreleased with
    | direct hr hsent =>
      rw [hsent.fatals]
      rename_i result
      cases result with
      | ok accepted => rfl
      | error error => exact congrArg (fun fatal => Option.toList fatal ++ h.fatals) (fatal_direct error).symm
    | periodic hr hsent =>
      rw [hsent.fatals]
      rename_i tap result
      have hfirst := hmild tap htap
      cases hfirstError : tap.firstError with
      | none =>
        cases result with
        | ok accepted => rfl
        | error error => exact congrArg (fun fatal => Option.toList fatal ++ h.fatals) (fatal_periodic error).symm
      | some first =>
        -- A press that left a tap was rejected at most, so only the release can be fatal.
        have hkind := hfirst first hfirstError
        cases result with
        | ok accepted =>
          change _ = (WorkerCommandProgress.fatal (.complete (.error (.periodic (.transport first none))))).toList ++ _
          rw [fatal_periodic, fatalResult, fatalResult, if_pos hkind]
        | error error =>
          by_cases hrejected : error.kind = .sendRejected
          · change _ = (WorkerCommandProgress.fatal (.complete (periodicOutcome (releaseError (some first)
              (.error error))))).toList ++ _
            rw [releaseError, if_neg (not_not.2 hrejected), periodicOutcome, fatal_periodic, fatalResult, fatalResult,
              if_pos hkind, if_pos hrejected]
          · change _ = (WorkerCommandProgress.fatal (.complete (periodicOutcome (releaseError (some first)
              (.error error))))).toList ++ _
            rw [releaseError, if_pos hrejected, fatalResult, if_neg hrejected]
            rfl

theorem Move.fatals {terminal : Option WorkerCoreError} (hmove : Move h s terminal h' s') (hmild : s.Mild) :
    h'.fatals = (terminal.bind WorkerCoreError.transportError).toList ++ h.fatals := by
  cases hmove with
  | unrequested => exact Log.fatals_cons rfl h
  | noCommand hcommand htap => exact Log.fatals_cons rfl h
  | polled => exact Log.fatals_cons rfl h
  | pollFailed => rfl
  | untagged => exact Log.fatals_cons rfl h
  | progress hresult => rfl
  | command hcommand htap hresult heffect =>
    rw [heffect.fatals, Log.fatals_cons rfl]
    rfl
  | event heffect => exact heffect.fatals
  | drive heffect =>
    rw [heffect.fatals, Log.fatals_cons rfl]
  | due hallowed heffect =>
    rw [heffect.fatals hmild, Log.fatals_cons rfl]

end Swbt
