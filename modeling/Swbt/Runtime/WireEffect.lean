import Swbt.Runtime.Ends
/-!
# Every trace is wire steps

A deed is a few wire steps, and so is the end of a worker; payloads are only
offered where a session is current.
-/

set_option autoImplicit false

open Effects

namespace Swbt

variable {m : ControllerKind} {r : ReportingKind} {h h' : Log m r} {s s' : Frame m r}

/-! ## Deeds -/

theorem Sent.wires {bytes : List UInt8} {candidate : SenderCommit} {result : TransportResult Unit}
    (hsent : Sent bytes candidate h s h' s' result) (hlive : s.sessions.current ≠ none)
    (hcandidate : Candidate h s bytes candidate) : Wires h s h' s' := by
  cases hsent with
  | accepted => exact (Wires.refl.wire (.accepted hlive hcandidate)).event _ rfl rfl rfl
  | refused error => exact Wires.refl.wire (.refused hlive hcandidate)

theorem InputSent.wires {state : InputState m} {nowNs : UInt64} {result : TransportResult Unit}
    (hsent : InputSent state nowNs h s h' s' result) (hlive : s.sessions.current ≠ none) : Wires h s h' s' :=
  Sent.wires hsent hlive (.input state nowNs)

theorem begin_wires (kind : ConnectionCommandKind) (deadline : Duration) (hclosed : s.sessions.current = none) :
    Wires h s (s.beginLog deadline h) (s.begin kind deadline) := by
  have hreset : Wires h s h s.resetSender := Wires.refl.leave hclosed
  have hsender := hreset.event (.emit s.resetSender (.status s.resetSender.sender.statusCall)) rfl rfl rfl
  have hinput : Wires h s _ s.resetInput := hsender.leave hclosed
  have hsnapshot := hinput.event (.emit s.resetInput (.status (.setSnapshot .neutral))) rfl rfl rfl
  have hbegun : Wires h s (s.beginLog deadline h) (s.beginSession deadline) := hsnapshot.wire (.begun rfl rfl)
  exact hbegun.update rfl rfl

theorem Deed.wires (hdeed : Deed h s h' s') : Wires h s h' s' := by
  cases hdeed with
  | internal hsteady => exact Wires.refl.update (by rw [hsteady.sender]) (by rw [hsteady.sessions])
  | quiet hstate hquiet => exact Wires.refl.event _ hstate (quietEvent_silent hquiet).offered (quietEvent_silent hquiet).begun
  | taken hcommand htap hidle => exact Wires.refl.event _ rfl rfl rfl
  | begun hopen hclosed => exact begin_wires _ _ hclosed
  | linked hlive =>
    refine .event ?_ _ rfl rfl rfl
    exact Wires.refl.update rfl rfl
  | noticed hlive =>
    refine .event ?_ _ rfl rfl rfl
    exact Wires.refl.update rfl rfl
  | replied hlive hneutral hrequest hprepare hsent hsteady =>
    rename_i s₂ t errors
    have hanswered : Wires h s _ s₂ :=
      (Sent.wires hsent hlive (.reply hrequest hprepare)).update (by rw [hsteady.sender]) (by rw [hsteady.sessions])
    exact (hanswered.event (.call s₂ Op.now t) rfl rfl rfl).update rfl rfl
  | reported hlive hneutral hsent => exact hsent.wires hlive
  | delivered hr hlive hready hsent =>
    cases hsent with
    | accepted hsent =>
      refine .event ?_ _ rfl rfl rfl
      exact (InputSent.wires hsent hlive).update rfl rfl
    | refused hsent => exact InputSent.wires hsent hlive
  | committed hr hidle =>
    refine .event ?_ _ rfl rfl rfl
    exact Wires.refl.update rfl rfl
  | scheduled hlive hclock hstart => exact Wires.refl.update rfl rfl
  | skipped hlive hclock hpolicy hticks =>
    refine .event ?_ _ rfl rfl rfl
    exact Wires.refl.update rfl rfl
  | automatic hlive hneutral hclock hpolicy hticks hsent =>
    refine .trans ?_ (InputSent.wires hsent hlive)
    refine .event ?_ _ rfl rfl rfl
    exact Wires.refl.update rfl rfl
  | readied hlive hconnecting hneutral =>
    refine .event ?_ _ rfl rfl rfl
    exact Wires.refl.update rfl rfl
  | ended hlive hlifecycle =>
    refine .event ?_ _ rfl rfl rfl
    exact Wires.refl.leave rfl

theorem Deeds.wires (hdeeds : Deeds h s h' s') : Wires h s h' s' := by
  refine Chain.inv (P := fun h₁ s₁ => Wires h s h₁ s₁) hdeeds .refl ?_
  intro _ _ _ _ hdeed hleft
  exact hleft.trans hdeed.wires

theorem Ending.wires (hend : Ending h s h' s') : Wires h s h' s' := by
  cases hend with
  | internal hsettled => exact Wires.refl.update (by rw [hsettled.sender]) (by rw [hsettled.sessions])
  | call hstate hcall =>
    exact Wires.refl.event _ hstate (endCall_silent hcall).offered (endCall_silent hcall).begun
  | failed halive =>
    refine .event ?_ _ rfl rfl rfl
    exact Wires.refl.update rfl rfl
  | abandoned => exact Wires.refl.event _ rfl rfl rfl
  | closing publish =>
    have hclosing : Wires h s h { s with lifecycle := ⟨.closing⟩ } := Wires.refl.update rfl rfl
    unfold published
    split
    · exact hclosing.event _ rfl rfl rfl
    · exact hclosing
  | neutral hlive hclosing hsent => exact hsent.wires hlive
  | closed => exact Wires.refl.event _ rfl rfl rfl
  | dropped => exact Wires.refl.leave rfl

theorem Endings.wires (hends : Endings h s h' s') : Wires h s h' s' := by
  refine Chain.inv (P := fun h₁ s₁ => Wires h s h₁ s₁) hends .refl ?_
  intro _ _ _ _ hend hleft
  exact hleft.trans hend.wires

theorem Trace.wires (htrace : Trace h s) : ∃ core : WorkerCore m r, core.IsNew ∧ Wires core.openLog core.start h s := by
  obtain ⟨core, hnew, h₁, s₁, hdeeds, hends⟩ := htrace.split
  exact ⟨core, hnew, hdeeds.wires.trans hends.wires⟩

end Swbt
