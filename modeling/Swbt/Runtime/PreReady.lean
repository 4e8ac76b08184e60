import Swbt.Runtime.Ends
/-!
# A session before it is Ready

Until its session is Ready a worker shows the host nothing but the neutral
controls, whatever it was told before, and takes no command.
-/

set_option autoImplicit false

open Effects

namespace Swbt

variable {m : ControllerKind} {r : ReportingKind} {h h' : Log m r} {s s' : Frame m r}

namespace Log

/-- The session that began last has become Ready. -/
def readied : Log m r → Bool
  | [] => false
  | e :: h => match statusOf e with
    | some (.beginSession ..) => false
    | some (.setLifecycle .ready) => true
    | _ => readied h

/-- The session that began last is neither Ready nor over. -/
def connecting : Log m r → Bool
  | [] => false
  | e :: h => match statusOf e with
    | some (.beginSession ..) => true
    | some (.setLifecycle _) | some (.endSession ..) | some (.close _) | some (.fail ..) => false
    | _ => connecting h

end Log

/-- The lifecycle of the frame is the one the log tells of. -/
structure Phased (h : Log m r) (s : Frame m r) : Prop where
  ready : s.lifecycle.state = .ready → h.readied = true
  connecting : h.connecting = true → s.lifecycle.state = .connecting

/-- What an event may be, given what came before it. -/
structure PreReady (e : LogEvent m r) (h : Log m r) : Prop where
  payload : ∀ payload, acceptedPayload e = some payload → h.readied = false → controlBytes payload = neutralControls
  input : statusOf e = some (.setLifecycle .ready) → e.state.input = .neutral
  command : (takenCommand e).isSome = true → e.state.connectionCommandPending = none ∧ h.connecting = false

/-- An event that carries no payload and no command, and is not the one that makes a session Ready. -/
theorem PreReady.of_silent {e : LogEvent m r} (haccepted : acceptedPayload e = none)
    (hstatus : statusOf e ≠ some (.setLifecycle .ready)) (htaken : takenCommand e = none) : PreReady e h where
  payload := by
    intro payload hpayload
    rw [haccepted] at hpayload
    cases hpayload
  input hready := absurd hready hstatus
  command hsome := by
    rw [htaken] at hsome
    cases hsome

/-- The log so far is good and the frame agrees with it. -/
def Fresh (h : Log m r) (s : Frame m r) : Prop := Phased h s ∧ Always PreReady h

theorem Fresh.keep (hfresh : Fresh h s) (hlifecycle : s'.lifecycle = s.lifecycle) : Fresh h s' := by
  refine ⟨⟨?_, ?_⟩, hfresh.2⟩
  · rw [hlifecycle]
    exact hfresh.1.ready
  · rw [hlifecycle]
    exact hfresh.1.connecting

theorem Fresh.event (hfresh : Fresh h s) {e : LogEvent m r} (hgood : PreReady e h)
    (hready : Log.readied (e :: h) = h.readied) (hconnecting : Log.connecting (e :: h) = h.connecting) :
    Fresh (e :: h) s := by
  refine ⟨⟨?_, ?_⟩, hgood, hfresh.2⟩
  · rw [hready]
    exact hfresh.1.ready
  · rw [hconnecting]
    exact hfresh.1.connecting

/-- A status call that tells nothing of the lifecycle. -/
def StatusCall.plain : StatusCall m → Bool
  | .setConnected _ | .setSnapshot _ | .setSenderState .. | .recordSubcommand _ => true
  | _ => false

theorem Fresh.publish (hfresh : Fresh h s) {call : StatusCall m} (hplain : call.plain = true) :
    Fresh (.emit s (.status call) :: h) s := by
  have hready : call ≠ .setLifecycle .ready := by
    rintro rfl
    cases hplain
  refine hfresh.event (.of_silent rfl (by simpa [statusOf] using hready) rfl) ?_ ?_
  · cases call <;> first | rfl | cases hplain
  · cases call <;> first | rfl | cases hplain

theorem Fresh.silent (hfresh : Fresh h s) {e : LogEvent m r} (hsilent : Silent e) : Fresh (e :: h) s := by
  refine hfresh.event (.of_silent hsilent.accepted (by simp [hsilent.status]) hsilent.taken) ?_ ?_
  · rw [Log.readied, hsilent.status]
  · rw [Log.connecting, hsilent.status]

/-! ## Sends -/

theorem Sent.preReady {bytes : List UInt8} {candidate : SenderCommit} {result : TransportResult Unit}
    (hsent : Sent bytes candidate h s h' s' result) (halways : Always PreReady h)
    (hneutral : h.readied = false → controlBytes bytes = neutralControls) : Always PreReady h' := by
  cases hsent with
  | refused error => exact ⟨.of_silent rfl (by simp [statusOf]) rfl, halways⟩
  | accepted =>
    refine ⟨.of_silent rfl (by simp [statusOf, ReportSender.statusCall]) rfl, ⟨?_, ?_, ?_⟩, halways⟩
    · rintro payload ⟨⟩ hbefore
      exact hneutral hbefore
    · rintro ⟨⟩
    · rintro ⟨⟩

theorem Sent.fresh {bytes : List UInt8} {candidate : SenderCommit} {result : TransportResult Unit}
    (hsent : Sent bytes candidate h s h' s' result) (hfresh : Fresh h s)
    (hneutral : s.lifecycle.state ≠ .ready → controlBytes bytes = neutralControls) : Fresh h' s' := by
  refine ⟨?_, hsent.preReady hfresh.2 ?_⟩
  · cases hsent with
    | refused error => exact ⟨hfresh.1.ready, hfresh.1.connecting⟩
    | accepted => exact ⟨hfresh.1.ready, hfresh.1.connecting⟩
  · intro hbefore
    apply hneutral
    intro hready
    rw [hfresh.1.ready hready] at hbefore
    cases hbefore

theorem InputSent.fresh {state : InputState m} {nowNs : UInt64} {result : TransportResult Unit}
    (hsent : InputSent state nowNs h s h' s' result) (hfresh : Fresh h s)
    (hneutral : s.lifecycle.state ≠ .ready → state = .neutral) : Fresh h' s' := by
  refine Sent.fresh hsent hfresh ?_
  intro hidle
  rw [ReportSender.controls_inputCandidate, hneutral hidle, encodeControls_neutral]

/-! ## Deeds and endings -/

theorem Deed.fresh (hdeed : Deed h s h' s') (hfresh : Fresh h s) : Fresh h' s' := by
  cases hdeed with
  | internal hsteady => exact hfresh.keep hsteady.lifecycle
  | quiet hstate hquiet =>
    exact hfresh.silent (quietEvent_silent hquiet)
  | taken hcommand htap hidle =>
    refine hfresh.event ⟨?_, ?_, ?_⟩ rfl rfl
    · rintro payload ⟨⟩
    · rintro ⟨⟩
    · intro _
      refine ⟨hcommand, ?_⟩
      -- A session that is still connecting would have the lifecycle connect.
      by_contra hconnecting
      exact hidle (hfresh.1.connecting (by simpa using hconnecting))
  | begun hopen hclosed =>
    have hreset : Fresh h s.resetSender := by
      refine ⟨⟨?_, fun _ => rfl⟩, hfresh.2⟩
      rintro ⟨⟩
    have hsender := @Fresh.publish _ _ _ _ hreset (ReportSender.statusCall { s.sender with committed := .default }) rfl
    have hkept : Fresh _ s.resetInput := hsender.keep rfl
    have hinput := @Fresh.publish _ _ _ _ hkept (.setSnapshot .neutral) rfl
    refine ⟨⟨?_, fun _ => rfl⟩, .of_silent rfl (by simp [statusOf]) rfl, hinput.2⟩
    rintro ⟨⟩
  | linked hlive =>
    refine Fresh.publish ?_ rfl
    exact hfresh.keep rfl
  | noticed hlive =>
    refine Fresh.publish ?_ rfl
    exact hfresh.keep rfl
  | replied hlive hneutral hrequest hprepare hsent hsteady =>
    have hanswered := Sent.fresh hsent hfresh fun hidle => by
      rw [ReportSender.controls_prepareReply hprepare, hneutral hidle, encodeControls_neutral, ite_self]
    refine Fresh.keep (Fresh.silent ?_ ⟨rfl, rfl, rfl⟩) rfl
    exact hanswered.keep hsteady.lifecycle
  | reported hlive hneutral hsent => exact hsent.fresh hfresh hneutral
  | delivered hr hlive hready hsent =>
    cases hsent with
    | refused hsent => exact InputSent.fresh hsent hfresh fun hidle => absurd hready hidle
    | accepted hsent =>
      have hreported := InputSent.fresh hsent hfresh fun hidle => absurd hready hidle
      refine Fresh.publish ?_ rfl
      exact hreported.keep rfl
  | committed hr hidle =>
    refine Fresh.publish ?_ rfl
    exact hfresh.keep rfl
  | scheduled hlive hclock hstart => exact hfresh.keep rfl
  | skipped hlive hclock hpolicy hticks =>
    refine Fresh.silent ?_ ⟨rfl, rfl, rfl⟩
    exact hfresh.keep rfl
  | automatic hlive hneutral hclock hpolicy hticks hsent =>
    refine InputSent.fresh hsent (Fresh.silent ?_ ⟨rfl, rfl, rfl⟩) hneutral
    exact hfresh.keep rfl
  | readied hlive hconnecting hneutral =>
    refine ⟨⟨fun _ => rfl, fun hbegun => nomatch hbegun⟩, ⟨?_, fun _ => hneutral, ?_⟩, hfresh.2⟩
    · rintro payload ⟨⟩
    · rintro ⟨⟩
  | ended hlive hlifecycle =>
    refine ⟨⟨?_, fun hbegun => nomatch hbegun⟩, .of_silent rfl (by simp [statusOf]) rfl, hfresh.2⟩
    have hopen : s.endSession.lifecycle = ⟨.open⟩ := by
      change s.lifecycle.markConnectionEnded = _
      rcases hlifecycle with hlifecycle | hlifecycle
      · rw [hlifecycle]
        rfl
      · rw [hlifecycle]
        rfl
    intro hready
    rw [hopen] at hready
    cases hready

/-- What a worker still sends when it ends is neutral. -/
theorem Ending.preReady (hend : Ending h s h' s') (halways : Always PreReady h) : Always PreReady h' := by
  cases hend with
  | internal hsettled => exact halways
  | call hstate hcall =>
    have hsilent := endCall_silent hcall
    exact ⟨.of_silent hsilent.accepted (by simp [hsilent.status]) hsilent.taken, halways⟩
  | failed halive => exact ⟨.of_silent rfl (by simp [statusOf]) rfl, halways⟩
  | abandoned => exact ⟨.of_silent rfl (by simp [statusOf]) rfl, halways⟩
  | closing publish =>
    unfold published
    split
    · exact ⟨.of_silent rfl (by simp [statusOf]) rfl, halways⟩
    · exact halways
  | neutral hlive hclosing hsent =>
    refine Sent.preReady hsent halways fun _ => ?_
    rw [ReportSender.controls_inputCandidate, encodeControls_neutral]
  | closed => exact ⟨.of_silent rfl (by simp [statusOf]) rfl, halways⟩
  | dropped => exact halways

theorem Trace.preReady (htrace : Trace h s) : Always PreReady h := by
  obtain ⟨core, hnew, h₁, s₁, hdeeds, hends⟩ := htrace.split
  have hstart : Fresh core.openLog core.start := by
    refine ⟨⟨?_, fun hbegun => nomatch hbegun⟩, .of_silent rfl (by simp [statusOf]) rfl, trivial⟩
    intro hready
    rw [show core.start.lifecycle = ⟨.open⟩ from hnew.isOpen.lifecycle] at hready
    cases hready
  have hfresh : Fresh h₁ s₁ := hdeeds.inv hstart Deed.fresh
  exact hends.inv (P := fun h _ => Always PreReady h) hfresh.2 Ending.preReady

/-- Whatever was committed before a session and whatever is queued during it,
its payloads carry the neutral controls until it is Ready, it becomes Ready
with a neutral input, and no command is taken before its own has completed. -/
theorem pre_ready_neutral (htrace : Trace h s) {e : LogEvent m r} {h₀ : Log m r} (hsuffix : e :: h₀ <:+ h) :
    (∀ payload, acceptedPayload e = some payload → h₀.readied = false → controlBytes payload = neutralControls) ∧
      (statusOf e = some (.setLifecycle .ready) → e.state.input = .neutral) ∧
      ((takenCommand e).isSome = true → e.state.connectionCommandPending = none ∧ h₀.connecting = false) := by
  have hgood := always_iff.1 htrace.preReady e h₀ hsuffix
  exact ⟨hgood.payload, hgood.input, hgood.command⟩

/-- A reply of the sample session, accepted before it was Ready. -/
theorem pre_ready_neutral_sample : ∃ e h₀ payload, e :: h₀ <:+ sampleReady.1 ∧ acceptedPayload e = some payload ∧
    controlBytes payload = neutralControls := by
  obtain ⟨e, he⟩ := Option.isSome_iff_exists.1 (show sampleReady.1[16]?.isSome = true by decide +kernel)
  obtain ⟨payload, hpayload⟩ := Option.isSome_iff_exists.1
    (show (sampleReady.1[16]?.bind acceptedPayload).isSome = true by decide +kernel)
  have hbefore : Log.readied (sampleReady.1.drop (16 + 1)) = false := by decide +kernel
  rw [he] at hpayload
  have hsuffix := suffix_of_getElem? he
  exact ⟨e, _, payload, hsuffix, hpayload,
    (pre_ready_neutral (.running sampleReady_run) hsuffix).1 payload hpayload hbefore⟩

end Swbt
