import Swbt.Runtime.Deed
/-!
# Every move is a chain of deeds

One lemma for each effect, up to paths of moves and runs of steps.
-/

set_option autoImplicit false

open Effects

namespace Swbt

variable {m : ControllerKind} {r : ReportingKind} {h h' : Log m r} {s s' : Frame m r}

/-! ## What a sound frame in a session has -/

theorem Frame.Sound.neutral (hs : s.Sound) (hlive : s.sessions.current ≠ none) (hidle : s.lifecycle.state ≠ .ready) :
    s.input = .neutral := by
  cases hs.coherent with
  | «open» hopen => exact absurd hopen.current hlive
  | connecting hwork hc => exact hc.neutral
  | ready hready => exact absurd (by rw [hready.lifecycle]; rfl) hidle

theorem Frame.Sound.live (hs : s.Sound) (hready : s.lifecycle.state = .ready) : s.sessions.current ≠ none :=
  Option.isSome_iff_ne_none.1 (hs.coherent.of_ready hready).current

/-- A worker without a pending connection command is not connecting. -/
theorem Frame.Sound.idle (hs : s.Sound) (hcommand : s.connectionCommandPending = none) :
    s.lifecycle.state ≠ .connecting := by
  intro hstate
  obtain ⟨work, -, hc⟩ := hs.coherent.of_connecting hstate
  have hsome := hc.command
  rw [hcommand] at hsome
  cases hsome

/-! ## Commands -/

theorem PeriodicSent.deeds {candidate : InputState m} {nowNs : UInt64} {result : TransportResult Unit}
    (hr : r = .periodic) (hready : s.lifecycle.state = .ready) (hlive : s.sessions.current ≠ none)
    (hsent : PeriodicSent candidate nowNs h s h' s' result) : Deeds h s h' s' := by
  have hcommit : Deed h s _ (s.commit candidate) := .committed hr (by rw [hready]; decide)
  exact (Chain.single hcommit).tail (.reported hlive (fun hidle => absurd hready hidle) hsent)

theorem InputEffect.deeds {command : ReportingCommand m r} {t : Duration} {progress : WorkerCommandProgress}
    (he : InputEffect command t h s h' s' progress) (hs : s.Sound) (hcommand : s.connectionCommandPending = none) : Deeds h s h' s' := by
  have htap : ∀ (s : Frame m r) (tap : Option (Tap m)), Steady s (s.setTap tap) := fun s tap =>
    ⟨rfl, rfl, rfl, rfl, rfl, Reporting.policy_withTap tap s.reporting⟩
  cases he with
  | rejected herror => exact .refl
  | committed hr candidate => exact .single (.committed hr (hs.idle hcommand))
  | sent hr hready hsent => exact .single (.delivered hr (hs.live hready) hready hsent)
  | unsent hr hready hsent => exact .single (.delivered hr (hs.live hready) hready hsent)
  | pressedDirect hr hready hsent =>
    exact Deeds.steady (.single (.delivered hr (hs.live hready) hready hsent)) (htap _ _)
  | pressedPeriodic hr hready hsent hresult =>
    exact Deeds.steady (PeriodicSent.deeds hr hready (hs.live hready) hsent) (htap _ _)
  | unpressed hr hready hsent hkind => exact PeriodicSent.deeds hr hready (hs.live hready) hsent

theorem Deeds.started (kind : ConnectionCommandKind) (result : TransportResult Unit) :
    Deeds h s (startEvent kind s result :: h) s := by
  cases kind with
  | pair => exact Deeds.quiet .refl _ rfl rfl
  | reconnect => exact Deeds.quiet .refl _ rfl rfl

theorem CommandEffect.deeds {command : RuntimeCommand m r} {progress : WorkerCommandProgress}
    (he : CommandEffect h s command h' s' progress) (hs : s.Sound) (hcommand : s.connectionCommandPending = none) :
    Deeds h s h' s' := by
  cases he with
  | unstarted => exact .started _ _
  | refused hopen => exact (Deeds.started _ _).quiet _ rfl rfl
  | begun hopen =>
    refine .tail ?_ (.begun hopen (hs.coherent.of_open hopen).current)
    exact (Deeds.started _ _).quiet _ rfl rfl
  | ended hended => exact .refl
  | input heffect =>
    refine .trans ?_ (heffect.deeds hs hcommand)
    exact Deeds.quiet .refl _ rfl rfl

/-! ## Connections -/

theorem Frame.noteHandshake_steady (s : Frame m r) (progress : HandshakeProgress) :
    Steady s (s.noteHandshake progress) := by
  have hsame := Frame.noteHandshake_sameControl s progress
  exact ⟨hsame.lifecycle, hsame.sessions, hsame.connected, hsame.input, s.sender_noteHandshake progress,
    by rw [s.reporting_noteHandshake progress]⟩

/-- The clock of a drive is what it read before its handshake step. -/
theorem Sent.clock {bytes : List UInt8} {candidate : SenderCommit} {result : TransportResult Unit}
    (hsent : Sent bytes candidate h s h' s' result) : h'.clock = h.clock := by
  cases hsent with
  | accepted => rfl
  | refused error => rfl

theorem HandshakeDriven.deeds {work : ConnectionWork} {t : Duration} {a : Except WorkerCoreError Nat × ConnectionWork}
    (hd : HandshakeDriven work t h s h' s' a) (hlive : s.sessions.current ≠ none) (hneutral : s.input = .neutral) :
    Deeds h s h' s' ∧ h'.clock = h.clock := by
  have heffect : ∀ {handshake : Handshake} {h' : Log m r} {s' : Frame m r}
      {a : Except HandshakeError HandshakeProgress × Handshake},
      HandshakeEffect handshake t h s h' s' a → Deeds h s h' s' ∧ h'.clock = h.clock := by
    intro handshake h' s' a he
    cases he with
    | attempted hattempting hscheduled hsent =>
      rw [← hneutral] at hsent
      exact ⟨.single (.reported hlive (fun _ => hneutral) hsent), Sent.clock hsent⟩
    | _ => exact ⟨.refl, rfl⟩
  cases hd with
  | collected hnone => exact ⟨.refl, rfl⟩
  | stepped hsome he => exact ⟨(heffect he).1.steady (Frame.noteHandshake_steady _ _), (heffect he).2⟩
  | overflow hsome he => exact heffect he

theorem Evaluated.deeds {gate : ReadinessGate} {t : Duration} {handshake : Option Handshake} {evaluation : Evaluation}
    (he : Evaluated gate t handshake h s h' s' evaluation) (hlive : s.sessions.current ≠ none)
    (hclock : h.clock = some t) : Deeds h s h' s' := by
  cases he with
  | unready hcollect hstart hready => exact .single (.scheduled hlive hclock hstart)
  | heldOff hcollect hstart hready hheld => exact .single (.scheduled hlive hclock hstart)
  | ready hcollect hgate hstart hready hheld => exact .single (.scheduled hlive hclock hstart)
  | _ => exact .refl

theorem Frame.complete_steady (s : Frame m r) (result : CommandResult) : Steady s (s.complete result) := by
  unfold Frame.complete
  split
  · exact .refl s
  · exact ⟨rfl, rfl, rfl, rfl, rfl, rfl⟩

theorem Frame.failConnection_steady (s : Frame m r) (error : ReadinessError) : Steady s (s.failConnection error) := by
  have hcomplete : Steady s (s.completeFailure (.readiness error)) := by
    unfold Frame.completeFailure
    split
    · exact .refl s
    · exact s.complete_steady _
  exact hcomplete.trans ⟨rfl, rfl, rfl, rfl, rfl, rfl⟩

/-- The frame of a drive, with the work taken out and the handshake's part done. -/
theorem DriveEffect.deeds {t : Duration} {result : Except WorkerCoreError Nat} (he : DriveEffect t h s h' s' result)
    (hs : s.Sound) (hclock : h.clock = some t) : Deeds h s h' s' := by
  have htake : Deeds h s h s.takeConnection := Deeds.steady .refl ⟨rfl, rfl, rfl, rfl, rfl, rfl⟩
  have hhandshaken : ∀ {work : ConnectionWork} {h₁ : Log m r} {s₁ : Frame m r}
      {a : Except WorkerCoreError Nat × ConnectionWork}, s.connection = some work →
      HandshakeDriven work t h s.takeConnection h₁ s₁ a →
        Deeds h s h₁ s₁ ∧ h₁.clock = some t ∧ s₁.sessions.current ≠ none ∧ s₁.lifecycle = ⟨.connecting⟩ ∧
          s₁.input = .neutral ∧ a.2.OfSession work.sessionId := by
    intro work h₁ s₁ a hwork hhandshake
    have hc := hs.coherent.of_connection hwork
    have hlive : s.takeConnection.sessions.current ≠ none := by
      rw [show s.takeConnection.sessions.current = _ from hc.current]
      simp
    obtain ⟨hdeeds, hsame⟩ := hhandshake.deeds hlive hc.neutral
    obtain ⟨hcontrol, -, hwork', -⟩ := hhandshake.sameControl hc.work
    refine ⟨htake.trans hdeeds, hsame.trans hclock, ?_, hcontrol.lifecycle.trans hc.lifecycle,
      hcontrol.input.trans hc.neutral, hwork'⟩
    rw [hcontrol.sessions]
    exact hlive
  cases he with
  | idle hnone => exact .refl
  | aborted hwork hinactive =>
    rename_i work error
    have hc := hs.coherent.of_connection hwork
    have hfailed := s.takeConnection.failConnection_steady error
    refine .tail (htake.steady hfailed) (.ended ?_ (.inl (hfailed.lifecycle.trans hc.lifecycle)))
    rw [hfailed.sessions, show s.takeConnection.sessions.current = _ from hc.current]
    simp
  | failed hwork hactive hhandshake =>
    exact (hhandshaken hwork hhandshake).1.steady ⟨rfl, rfl, rfl, rfl, rfl, rfl⟩
  | pending hwork hactive hhandshake hevaluated hresult =>
    obtain ⟨hdeeds, hnow, hlive, -, -, -⟩ := hhandshaken hwork hhandshake
    exact Deeds.steady (hdeeds.trans (hevaluated.deeds hlive hnow)) ⟨rfl, rfl, rfl, rfl, rfl, rfl⟩
  | ready hwork hactive hhandshake hevaluated hresult =>
    obtain ⟨hdeeds, hnow, hlive, hlifecycle, hneutral, hwork'⟩ := hhandshaken hwork hhandshake
    obtain ⟨hsame, -, -, -⟩ := hevaluated.sameControl hwork'
    refine .steady (.tail (hdeeds.trans (hevaluated.deeds hlive hnow)) (.readied ?_ ?_ ?_)) (Frame.complete_steady _ _)
    · rw [hsame.sessions]
      exact hlive
    · exact hsame.lifecycle.trans hlifecycle
    · exact hsame.input.trans hneutral
  | evaluationFailed hwork hactive hhandshake hevaluated hresult =>
    rename_i error evaluation h₁ h₂ s₁ s₂
    obtain ⟨hdeeds, hnow, hlive, hlifecycle, -, hwork'⟩ := hhandshaken hwork hhandshake
    obtain ⟨hsame, -, -, -⟩ := hevaluated.sameControl hwork'
    have hfailed := s₂.failConnection_steady error
    refine .tail (Deeds.steady (hdeeds.trans (hevaluated.deeds hlive hnow)) hfailed) (.ended ?_ (.inl ?_))
    · rw [hfailed.sessions, hsame.sessions]
      exact hlive
    · exact (hfailed.lifecycle.trans hsame.lifecycle).trans hlifecycle

/-! ## Events -/

theorem Reporting.policy_recorded (reporting : Reporting m r) (t : Duration)
    {completion : Except OutputHandlingError OutputHandling} (hnone : completion ≠ .ok .replyAccepted) :
    (reporting.recorded t completion).policy = reporting.policy := by
  cases reporting with
  | direct runtime => rfl
  | periodic runtime =>
    unfold recorded PeriodicPolicy.recordOutputCompletion
    dsimp only
    split
    · rename_i policy hrecord
      split at hrecord
      · contradiction
      · cases hrecord
        rfl
    · rfl

/-- Recording an output report that had no reply accepted. -/
theorem Frame.record_steady (s : Frame m r) (t : Duration) {completion : Except OutputHandlingError OutputHandling}
    (hnone : completion ≠ .ok .replyAccepted) (errors : List WorkerOperationError) :
    Steady s (s.record t completion errors) :=
  ⟨rfl, rfl, rfl, rfl, rfl, s.reporting.policy_recorded t hnone⟩

/-- An output report, with a tap held back while it is answered. -/
theorem Answered.deeds {channel : HidChannel} {raw : List UInt8} {id : ConnectionSessionId}
    {completion : Except OutputHandlingError OutputHandling} {tap : Option (Tap m)} {s₀ : Frame m r}
    (ha : Answered channel raw s.input (.emit s₀ (.processed (some ⟨id, .hidOutput channel raw⟩)) :: h) s h' s'
      completion)
    (hlive : s.sessions.current ≠ none) (hneutral : s.lifecycle.state ≠ .ready → s.input = .neutral) (t : Duration)
    (errors : List WorkerOperationError) :
    Deeds (.emit s₀ (.processed (some ⟨id, .hidOutput channel raw⟩)) :: h) s (.call (s'.setTap tap) Op.now t :: h')
      ((s'.setTap tap).record t completion errors) := by
  have htap : ∀ s : Frame m r, Steady s (s.setTap tap) := fun s =>
    ⟨rfl, rfl, rfl, rfl, rfl, Reporting.policy_withTap tap s.reporting⟩
  have hrecord : ∀ {h₁ h₂ : Log m r} {s₁ s₂ : Frame m r}, completion ≠ .ok .replyAccepted → Deeds h₁ s₁ h₂ s₂ →
      Deeds h₁ s₁ (.call (s₂.setTap tap) Op.now t :: h₂) ((s₂.setTap tap).record t completion errors) := by
    intro h₁ h₂ s₁ s₂ hnone hdeeds
    refine Deeds.steady ?_ (Frame.record_steady _ t hnone errors)
    refine Deeds.quiet ?_ _ rfl rfl
    exact hdeeds.steady (htap s₂)
  cases ha with
  | malformed hparse => exact hrecord (by simp) .refl
  | rumble hparse => exact hrecord (by simp) (Deeds.quiet .refl _ rfl rfl)
  | unprepared hparse hprepare =>
    refine hrecord (by simp) ?_
    refine .tail ?_ (.noticed hlive)
    exact Deeds.quiet .refl _ rfl rfl
  | replied hparse hprepare hsent =>
    rename_i packetId bytes request action result
    refine .tail ?_ (.replied (s := s.observe request.id) hlive hneutral ?_ hprepare hsent (htap s'))
    · refine .tail ?_ (.noticed hlive)
      exact Deeds.quiet .refl _ rfl rfl
    · simp [Log.request, arrivedRequest, hparse]

theorem Frame.cut_steady (s : Frame m r) (reason : Option UInt8) :
    Steady s ((s.cutTap reason).cutConnection reason) := by
  have hcut : Steady s (s.cutTap reason) := by
    unfold Frame.cutTap
    split
    · exact .refl s
    · exact ⟨rfl, rfl, rfl, rfl, rfl, Reporting.policy_withTap none s.reporting⟩
  refine hcut.trans ?_
  unfold Frame.cutConnection
  split
  · exact .refl _
  · have htake : Steady (s.cutTap reason) (s.cutTap reason).takeConnection := ⟨rfl, rfl, rfl, rfl, rfl, rfl⟩
    exact htake.trans (Frame.failConnection_steady _ _)

theorem EventEffect.deeds {event : SessionEvent} {result : Except WorkerCoreError Bool}
    (he : EventEffect event h s h' s' result) (hs : s.Sound) : Deeds h s h' s' := by
  have hlive : s.sessions.current = some event.sessionId → s.sessions.current ≠ none := by
    intro hcurrent
    rw [hcurrent]
    simp
  cases he with
  | dropped hstale => exact Deeds.quiet .refl _ rfl rfl
  | connected hcurrent hevent =>
    have hcame : Deeds h s (.emit s (.processed (some event)) :: h) s := Deeds.quiet .refl _ rfl rfl
    have hlinked : Deeds h s _ s.connect := hcame.tail (.linked (hlive hcurrent))
    exact hlinked.steady ⟨rfl, rfl, rfl, rfl, rfl, rfl⟩
  | opened hcurrent hevent =>
    have hcame : Deeds h s (.emit s (.processed (some event)) :: h) s := Deeds.quiet .refl _ rfl rfl
    exact hcame.steady ⟨rfl, rfl, rfl, rfl, rfl, rfl⟩
  | answered hcurrent hevent hheld hanswered =>
    rename_i channel raw held h₁ s₁ completion t errors
    obtain ⟨id, transportEvent⟩ := event
    cases hevent
    refine .trans ?_ (Answered.deeds (s := s.setTap held) hanswered (hlive hcurrent) (hs.neutral (hlive hcurrent)) t
      errors)
    have hcame : Deeds h s (.emit s (.processed (some ⟨id, .hidOutput channel raw⟩)) :: h) s :=
      Deeds.quiet .refl _ rfl rfl
    exact hcame.steady ⟨rfl, rfl, rfl, rfl, rfl, Reporting.policy_withTap held s.reporting⟩
  | disconnected hcurrent hevent =>
    rename_i reason
    have hcut := s.cut_steady reason
    refine .tail (Deeds.steady ?_ hcut) (.ended ?_ ?_)
    · exact Deeds.quiet .refl _ rfl rfl
    · rw [hcut.sessions]
      exact hlive hcurrent
    · rw [hcut.lifecycle]
      exact hs.coherent.of_current hcurrent

/-! ## Due actions -/

theorem Frame.settleDue_keeps (s : Frame m r) (progress : Option WorkerCommandProgress) :
    (s.settleDue progress).toWorkerCore = s.toWorkerCore := by
  unfold Frame.settleDue Frame.settle
  split
  · rfl
  · split
    · rfl
    · rfl

theorem Frame.recordDue_keeps (s : Frame m r) (due : ReportingDue) :
    (s.recordDue due).toWorkerCore = s.toWorkerCore := (s.countDue due).settleDue_keeps due.completion

theorem Frame.settle_keeps (s : Frame m r) (progress : WorkerCommandProgress) :
    (s.settle progress).toWorkerCore = s.toWorkerCore := by
  unfold Frame.settle
  split
  · rfl
  · rfl

theorem DueEffect.deeds {t : Duration} {due : ReportingDue} (he : DueEffect t h s h' s' due) (hs : s.Sound)
    (hlive : s.sessions.current ≠ none) (hclock : h.clock = some t) : Deeds h s h' s' := by
  have hneutral := hs.neutral hlive
  cases he with
  | quiet htap hpolicy => exact .refl
  | failed hpolicy herror => exact .refl
  | backpressured htap hpolicy hticks => exact .single (.skipped hlive hclock hpolicy hticks)
  | automatic hpolicy hticks hsent herrors => exact .single (.automatic hlive hneutral hclock hpolicy hticks hsent)
  | released htap hdue hreleased =>
    have hready : s.lifecycle.state = .ready := by
      rw [(hs.coherent.of_tap ((Reporting.hasPending_iff_tap _).2 (by rw [htap]; simp))).lifecycle]
      rfl
    have htaken : Deeds h s h (s.setTap none) := Deeds.steady .refl
      ⟨rfl, rfl, rfl, rfl, rfl, Reporting.policy_withTap none s.reporting⟩
    cases hreleased with
    | periodic hr hsent => exact htaken.trans (PeriodicSent.deeds hr hready hlive hsent)
    | direct hr hsent => exact htaken.tail (.delivered hr hlive hready hsent)

/-! ## Moves, steps and runs -/

theorem Move.deeds {terminal : Option WorkerCoreError} (hmove : Move h s terminal h' s') (hs : s.Sound) :
    Deeds h s h' s' := by
  cases hmove with
  | unrequested => exact Deeds.quiet .refl _ rfl rfl
  | noCommand hcommand htap => exact Deeds.quiet .refl _ rfl rfl
  | polled => exact Deeds.quiet .refl _ rfl rfl
  | pollFailed => exact Deeds.quiet .refl _ rfl rfl
  | untagged => exact Deeds.quiet .refl _ rfl rfl
  | progress hresult => exact Deeds.core .refl rfl
  | command hcommand htap hresult heffect =>
    refine Deeds.core ?_ (Frame.settle_keeps _ _)
    refine .trans ?_ (heffect.deeds ⟨hs.coherent, hs.unanswered⟩ hcommand)
    rename_i command _ _
    have htaken : Deeds h s (.call s Op.nextCommand (some command) :: h) s :=
      .single (.taken hcommand htap (hs.idle hcommand))
    exact htaken.core rfl
  | event heffect => exact heffect.deeds hs
  | drive heffect =>
    refine .trans ?_ (heffect.deeds hs rfl)
    exact Deeds.quiet .refl _ rfl rfl
  | due hallowed heffect =>
    refine Deeds.core ?_ (Frame.recordDue_keeps _ _)
    refine .trans ?_ (heffect.deeds hs (hallowed.live hs.coherent) rfl)
    exact Deeds.quiet .refl _ rfl rfl

theorem Path.deeds (hpath : Path h s h' s') : Deeds h s h' s' := by
  induction hpath with
  | refl => exact .refl
  | move _ hsound hmove ih => exact ih.trans (hmove.deeds hsound)

theorem LastMove.deeds (hlast : LastMove h s h' s') (hs : s.Sound) : Deeds h s h' s' := by
  cases hlast with
  | none => exact .refl
  | terminal hmove => exact hmove.deeds hs

theorem Run.deeds (hrun : Run h s) : ∃ core : WorkerCore m r, core.IsNew ∧ Deeds core.openLog core.start h s := by
  induction hrun with
  | opened hnew => exact ⟨_, hnew, .refl⟩
  | step hrun hexec ih =>
    rename_i h₀ h' s₀ s' progress
    obtain ⟨core, hnew, hdeeds⟩ := ih
    refine ⟨core, hnew, hdeeds.trans ?_⟩
    have hfresh : Deeds h₀ s₀ h₀ s₀.fresh := Deeds.core .refl rfl
    cases hexec.post (stepRuntime_spec _ _ hrun.coherent) with
    | continued hpath hsound => exact Deeds.core (hfresh.trans hpath.deeds) rfl
    | closed hpath hsound₁ hlast hsound hclose => cases hclose
    | failed hpath hsound₁ hmove hsound hfail => cases hfail

end Swbt
