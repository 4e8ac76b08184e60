import Swbt.Runtime.Ends
import Swbt.Runtime.Status
/-!
# Publishing

What a worker publishes, one change at a time. Every deed is a few of these
steps and so is a close up to its end, and then come only the calls that
conclude a worker.
-/

set_option autoImplicit false

open Effects

namespace Swbt

variable {m : ControllerKind} {r : ReportingKind} {h h₁ h' : Log m r} {s s₁ s' : Frame m r}

/-- The fields the projection shows are the same. -/
structure Shown (s s' : Frame m r) : Prop where
  lifecycle : s'.lifecycle = s.lifecycle
  current : s'.sessions.current = s.sessions.current
  connected : s'.connected = s.connected
  input : s'.input = s.input
  reports : s'.sender.inputReportsAccepted = s.sender.inputReportsAccepted
  replies : s'.sender.repliesAccepted = s.sender.repliesAccepted

theorem Settled.shown (hsettled : Settled s s') : Shown s s' where
  lifecycle := hsettled.lifecycle
  current := by rw [hsettled.sessions]
  connected := hsettled.connected
  input := hsettled.input
  reports := by rw [hsettled.sender]
  replies := by rw [hsettled.sender]

/-- The status calls of one change, or a change nobody is told of. -/
inductive Publish (h : Log m r) (s : Frame m r) : Log m r → Frame m r → Prop
  | keep {s' : Frame m r} (hshown : Shown s s') : Publish h s h s'
  | silent {e : LogEvent m r} (hstatus : statusOf e = none) (haccepted : acceptedPayload e = none) :
      Publish h s (e :: h) s
  | accepted {bytes : List UInt8} {candidate : SenderCommit} (hlive : s.sessions.current ≠ none)
      (hhead : bytes.head? = some 0x30 ∨ bytes.head? = some 0x21) :
      Publish h s
        (.emit (s.accept bytes candidate) (.status (s.sender.accept bytes candidate).statusCall) ::
          .call s (Op.sendInterrupt bytes) (.ok ()) :: h) (s.accept bytes candidate)
  | committed {f : Frame m r} {candidate : InputState m} :
      Publish h s (.emit f (.status (.setSnapshot candidate)) :: h) (s.commit candidate)
  | begun {kind : ConnectionCommandKind} {deadline : Duration} (hclosed : s.sessions.current = none) :
      Publish h s (s.beginLog deadline h) (s.begin kind deadline)
  | linked (hlive : s.sessions.current ≠ none) : Publish h s (.emit s.connect (.status (.setConnected true)) :: h) s.connect
  | noticed {id : UInt8} (hlive : s.sessions.current ≠ none) :
      Publish h s (.emit (s.observe id) (.status (.recordSubcommand id)) :: h) (s.observe id)
  | entered {s' : Frame m r} {state : RuntimeState} (hlive : state = .ready → s.sessions.current ≠ none)
      (hframe : s' = { s with lifecycle := ⟨state⟩ }) :
      Publish h s (.emit s' (.status (.setLifecycle s'.lifecycle.state)) :: h) s'
  | ended {reason : Option UInt8} (hlive : s.sessions.current ≠ none)
      (hlifecycle : s.lifecycle = ⟨.connecting⟩ ∨ s.lifecycle = ⟨.ready⟩) :
      Publish h s (.emit s.endSession (.status (.endSession .open reason)) :: h) s.endSession

abbrev Publishes : Log m r → Frame m r → Log m r → Frame m r → Prop := Chain Publish

namespace Publishes

theorem keep (hpublishes : Publishes h s h' s₁) (hshown : Shown s₁ s') : Publishes h s h' s' :=
  hpublishes.tail (.keep hshown)

theorem silent (hpublishes : Publishes h s h' s') (e : LogEvent m r) (hstatus : statusOf e = none)
    (haccepted : acceptedPayload e = none) : Publishes h s (e :: h') s' :=
  hpublishes.tail (.silent hstatus haccepted)

end Publishes

/-! ## Deeds -/

theorem Sent.publishes {bytes : List UInt8} {candidate : SenderCommit} {result : TransportResult Unit}
    (hsent : Sent bytes candidate h s h' s' result) (hlive : s.sessions.current ≠ none)
    (hhead : bytes.head? = some 0x30 ∨ bytes.head? = some 0x21) : Publishes h s h' s' := by
  cases hsent with
  | refused error => exact Publishes.silent .refl _ rfl rfl
  | accepted => exact .single (.accepted hlive hhead)

theorem InputSent.publishes {state : InputState m} {nowNs : UInt64} {result : TransportResult Unit}
    (hsent : InputSent state nowNs h s h' s' result) (hlive : s.sessions.current ≠ none) : Publishes h s h' s' :=
  Sent.publishes hsent hlive (.inl (s.sender.head_inputCandidate state nowNs))

theorem Deed.publishes (hdeed : Deed h s h' s') : Publishes h s h' s' := by
  cases hdeed with
  | internal hsteady => exact Publishes.keep .refl hsteady.settled.shown
  | quiet hstate hquiet =>
    exact Publishes.silent .refl _ (quietEvent_silent hquiet).status (quietEvent_silent hquiet).accepted
  | taken hcommand htap hidle => exact Publishes.silent .refl _ rfl rfl
  | begun hopen hclosed => exact .single (.begun hclosed)
  | linked hlive => exact .single (.linked hlive)
  | noticed hlive => exact .single (.noticed hlive)
  | replied hlive hneutral hrequest hprepare hsent hsteady =>
    have hanswered := Sent.publishes hsent hlive (.inr (prepareReply_spec hprepare).head)
    rename_i s₂ t errors
    have hkept : Publishes h s _ s₂ := hanswered.keep hsteady.settled.shown
    have hread := Publishes.silent hkept (.call s₂ Op.now t) rfl rfl
    exact Publishes.keep hread ⟨rfl, rfl, rfl, rfl, rfl, rfl⟩
  | reported hlive hneutral hsent => exact hsent.publishes hlive
  | delivered hr hlive hready hsent =>
    cases hsent with
    | refused hsent => exact InputSent.publishes hsent hlive
    | accepted hsent => exact (InputSent.publishes hsent hlive).tail .committed
  | committed hr hidle => exact .single .committed
  | scheduled hlive hclock hstart => exact Publishes.keep .refl ⟨rfl, rfl, rfl, rfl, rfl, rfl⟩
  | skipped hlive hclock hpolicy hticks =>
    refine Publishes.silent ?_ _ rfl rfl
    exact Publishes.keep .refl ⟨rfl, rfl, rfl, rfl, rfl, rfl⟩
  | automatic hlive hneutral hclock hpolicy hticks hsent =>
    refine .trans ?_ (InputSent.publishes hsent hlive)
    refine Publishes.silent ?_ _ rfl rfl
    exact Publishes.keep .refl ⟨rfl, rfl, rfl, rfl, rfl, rfl⟩
  | readied hlive hconnecting hneutral => exact .single (@Publish.entered _ _ _ _ _ .ready (fun _ => hlive) rfl)
  | ended hlive hlifecycle => exact .single (.ended hlive hlifecycle)

theorem Deeds.publishes (hdeeds : Deeds h s h' s') : Publishes h s h' s' := hdeeds.lift Deed.publishes

/-! ## The end of a worker -/

theorem CloseEffect.publishes {request : ShutdownRequest} {t : Duration} {step : WorkerStep}
    (hc : CloseEffect request t h s h' s' step) (hs : s.Sound) :
    ∃ h₁ s₁, Publishes h s h₁ s₁ ∧
      h' = .emit s' (.status (.close .closed)) :: .emit s₁ (.status (.close .closed)) :: h₁ := by
  cases hc with
  | closed hcleaned =>
    have hshut := s.shut_settled
    have hclosing : Publishes h s (.emit { s.shut with lifecycle := ⟨.closing⟩ } (.status (.setLifecycle .closing)) :: h)
        { s.shut with lifecycle := ⟨.closing⟩ } := by
      have hkept : Publishes h s h s.shut := Publishes.keep .refl hshut.shown
      exact hkept.tail (@Publish.entered _ _ _ _ _ .closing (fun hready => nomatch hready) rfl)
    cases hcleaned with
    | closing hclosed =>
      rw [hshut.lifecycle] at hclosed
      exact absurd (by rw [LifecycleStateMachine.state, hclosed]) hs.coherent.not_closing
    | performed halive hneutral hdrained =>
      rename_i s₁ h₁ h₂ failure₁ failure₂ disconnected closed
      have hneutral : Publishes h s h₁ s₁ := by
        refine hclosing.trans ?_
        cases hneutral with
        | skipped hwanted => exact .refl
        | sent hwanted hsent =>
          rw [Bool.and_eq_true] at hwanted
          refine InputSent.publishes hsent ?_
          change s.shut.sessions.current ≠ none
          rw [hshut.sessions, ← Option.isSome_iff_ne_none]
          exact hs.coherent.current_of_connected hwanted.2
      have hdrained : Publishes h s h₂ s₁ := by
        cases hdrained with
        | skipped hwanted => exact hneutral
        | drained hwanted => exact hneutral.silent _ rfl rfl
      refine ⟨_, s₁, Publishes.silent (hdrained.silent (.call s₁ Op.disconnect disconnected) rfl rfl)
        (.call s₁ Op.close closed) rfl rfl, rfl⟩

/-- Events that publish nothing and accept nothing. -/
def Mute (added : Log m r) : Prop := ∀ e ∈ added, statusOf e = none ∧ acceptedPayload e = none

theorem Mute.cons {added : Log m r} (hmute : Mute added) (e : LogEvent m r) (hstatus : statusOf e = none)
    (haccepted : acceptedPayload e = none) : Mute (e :: added) :=
  List.forall_mem_cons.2 ⟨⟨hstatus, haccepted⟩, hmute⟩

/-- A failed worker publishes its failure and then cleans up in silence. -/
theorem AbandonEffect.mute {cause : WorkerFailureCause} {failure : Option CleanupFailure}
    (ha : AbandonEffect cause h s h' s' failure) :
    ∃ added : Log m r, Mute added ∧
      h' = added ++ .emit s (.status (.fail (workerFailureStatus cause) (workerFailureCategory cause))) :: h := by
  cases ha with
  | cleaned hcleaned =>
    rename_i t s₁ completion
    have hnow : Mute [(.call s Op.now t : LogEvent m r)] := Mute.cons (fun _ => by rintro ⟨⟩) _ rfl rfl
    cases hcleaned with
    | closing hclosed => exact ⟨_, hnow, rfl⟩
    | performed halive hneutral hdrained =>
      rename_i h₁ h₂ failure₁ failure₂ disconnected closed
      cases hneutral with
      | sent hwanted hsent => cases hwanted
      | skipped hwanted =>
        cases hdrained with
        | skipped hwanted => cases hwanted
        | drained hwanted =>
          rename_i result
          refine ⟨[.call _ Op.close closed, .call _ Op.disconnect disconnected,
            .call _ (Op.drainInterrupt explicitCloseDrainTimeout) result, .call s Op.now t], ?_, rfl⟩
          exact ((hnow.cons _ rfl rfl).cons _ rfl rfl).cons _ rfl rfl

end Swbt
