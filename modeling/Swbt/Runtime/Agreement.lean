import Swbt.Runtime.Projection
/-!
# The projection agrees with the worker

While a worker lives the projection shows its lifecycle, connection and
session, whatever the projection held when the worker was opened.
-/

set_option autoImplicit false

open Effects

namespace Swbt

variable {m : ControllerKind} {r : ReportingKind} {h h' : Log m r} {s s' : Frame m r} {p p₀ : StatusPublisher m r}

/-! ## The fields of a projection after a call -/

namespace StatusPublisher

section SetLifecycle

variable (p) (lifecycle : LifecycleState)

@[simp] theorem lifecycle_setLifecycle : (p.setLifecycle lifecycle).lifecycle = lifecycle := by
  unfold setLifecycle
  split
  · assumption
  · rfl

@[simp] theorem connected_setLifecycle : (p.setLifecycle lifecycle).connected = p.connected := by
  unfold setLifecycle
  split <;> rfl

@[simp] theorem sessionId_setLifecycle : (p.setLifecycle lifecycle).sessionId = p.sessionId := by
  unfold setLifecycle
  split <;> rfl

@[simp] theorem workerFailure_setLifecycle : (p.setLifecycle lifecycle).workerFailure = p.workerFailure := by
  unfold setLifecycle
  split <;> rfl

@[simp] theorem snapshot_setLifecycle : (p.setLifecycle lifecycle).snapshot = p.snapshot := by
  unfold setLifecycle
  split <;> rfl

@[simp] theorem reports_setLifecycle :
    (p.setLifecycle lifecycle).inputReportsAccepted = p.inputReportsAccepted := by
  unfold setLifecycle
  split <;> rfl

@[simp] theorem replies_setLifecycle : (p.setLifecycle lifecycle).repliesAccepted = p.repliesAccepted := by
  unfold setLifecycle
  split <;> rfl

end SetLifecycle

section SetSenderState

variable (p) (reportMode : Option UInt8) (imuMode : UInt8) (reports replies : UInt64)

@[simp] theorem lifecycle_setSenderState :
    (p.setSenderState reportMode imuMode reports replies).lifecycle = p.lifecycle := by
  unfold setSenderState
  dsimp only
  split <;> rfl

@[simp] theorem connected_setSenderState :
    (p.setSenderState reportMode imuMode reports replies).connected = p.connected := by
  unfold setSenderState
  dsimp only
  split <;> rfl

@[simp] theorem sessionId_setSenderState :
    (p.setSenderState reportMode imuMode reports replies).sessionId = p.sessionId := by
  unfold setSenderState
  dsimp only
  split <;> rfl

@[simp] theorem workerFailure_setSenderState :
    (p.setSenderState reportMode imuMode reports replies).workerFailure = p.workerFailure := by
  unfold setSenderState
  dsimp only
  split <;> rfl

@[simp] theorem snapshot_setSenderState :
    (p.setSenderState reportMode imuMode reports replies).snapshot = p.snapshot := by
  unfold setSenderState
  dsimp only
  split <;> rfl

@[simp] theorem reports_setSenderState :
    (p.setSenderState reportMode imuMode reports replies).inputReportsAccepted = reports := by
  unfold setSenderState
  dsimp only
  split <;> rfl

@[simp] theorem replies_setSenderState :
    (p.setSenderState reportMode imuMode reports replies).repliesAccepted = replies := by
  unfold setSenderState
  dsimp only
  split <;> rfl

end SetSenderState

end StatusPublisher

/-! ## Agreement -/

/-- The projection shows what the frame is in. -/
structure Agrees (p : StatusPublisher m r) (s : Frame m r) : Prop where
  lifecycle : p.lifecycle = s.lifecycle.state
  connected : p.connected = s.connected
  current : p.sessionId = s.sessions.current
  disconnected : s.sessions.current = none → s.connected = false

theorem Agrees.publish (hagrees : Agrees (h.published p₀) s) (hpublish : Publish h s h' s') :
    Agrees (h'.published p₀) s' := by
  cases hpublish with
  | keep hshown =>
    refine ⟨?_, ?_, ?_, ?_⟩
    · rw [hshown.lifecycle]
      exact hagrees.lifecycle
    · rw [hshown.connected]
      exact hagrees.connected
    · rw [hshown.current]
      exact hagrees.current
    · rw [hshown.current, hshown.connected]
      exact hagrees.disconnected
  | silent hstatus haccepted =>
    rw [Log.published_silent hstatus]
    exact hagrees
  | accepted hlive hhead =>
    refine ⟨?_, ?_, ?_, hagrees.disconnected⟩
    · exact (StatusPublisher.lifecycle_setSenderState ..).trans hagrees.lifecycle
    · exact (StatusPublisher.connected_setSenderState ..).trans hagrees.connected
    · exact (StatusPublisher.sessionId_setSenderState ..).trans hagrees.current
  | committed => exact ⟨hagrees.lifecycle, hagrees.connected, hagrees.current, hagrees.disconnected⟩
  | begun hclosed => exact ⟨rfl, rfl, rfl, fun _ => rfl⟩
  | linked hlive =>
    refine ⟨hagrees.lifecycle, rfl, hagrees.current, ?_⟩
    intro hclosed
    exact absurd hclosed hlive
  | noticed hlive => exact ⟨hagrees.lifecycle, hagrees.connected, hagrees.current, hagrees.disconnected⟩
  | entered hlive hframe =>
    subst hframe
    refine ⟨?_, ?_, ?_, hagrees.disconnected⟩
    · exact StatusPublisher.lifecycle_setLifecycle ..
    · exact (StatusPublisher.connected_setLifecycle ..).trans hagrees.connected
    · exact (StatusPublisher.sessionId_setLifecycle ..).trans hagrees.current
  | ended hlive hlifecycle =>
    refine ⟨?_, rfl, rfl, fun _ => rfl⟩
    change LifecycleState.open = s.lifecycle.markConnectionEnded.state
    rcases hlifecycle with hlifecycle | hlifecycle
    all_goals rw [hlifecycle]; rfl

/-! ## The failure left behind -/

/-- The failure shown is the one the worker found there, until it begins a session. -/
structure Latched (p₀ : StatusPublisher m r) (h : Log m r) (s : Frame m r) : Prop where
  failure : (h.published p₀).workerFailure = if h.session = none then p₀.workerFailure else none
  session : s.sessions.current ≠ none → h.session ≠ none

theorem Latched.publish (hlatched : Latched p₀ h s) (hpublish : Publish h s h' s') : Latched p₀ h' s' := by
  obtain ⟨hfailure, hsession⟩ := hlatched
  cases hpublish with
  | keep hshown =>
    refine ⟨hfailure, ?_⟩
    rw [hshown.current]
    exact hsession
  | silent hstatus haccepted =>
    have hbegun := Log.session_cons (begunSession_of_status hstatus) h
    refine ⟨?_, ?_⟩
    · rw [Log.published_silent hstatus, hbegun]
      exact hfailure
    · rw [hbegun]
      exact hsession
  | accepted hlive hhead => exact ⟨(StatusPublisher.workerFailure_setSenderState ..).trans hfailure, hsession⟩
  | committed => exact ⟨hfailure, hsession⟩
  | begun hclosed =>
    refine ⟨rfl, fun _ => ?_⟩
    rintro ⟨⟩
  | linked hlive => exact ⟨hfailure, hsession⟩
  | noticed hlive => exact ⟨hfailure, hsession⟩
  | entered hlive hframe =>
    subst hframe
    exact ⟨(StatusPublisher.workerFailure_setLifecycle ..).trans hfailure, hsession⟩
  | ended hlive hlifecycle => exact ⟨hfailure, fun hcurrent => absurd rfl hcurrent⟩

/-! ## The input shown -/

/-- Whether an event publishes the committed input. -/
def publishesInput (e : LogEvent m r) : Bool :=
  match statusOf e with
  | some (.setSnapshot _) => true
  | _ => false

/-- Whether the worker has committed an input since it was opened. -/
def Log.snapped (h : Log m r) : Bool := h.any publishesInput

/-- The input shown is the one the worker found there, until it commits one. -/
structure Mirrored (p₀ : StatusPublisher m r) (h : Log m r) (s : Frame m r) : Prop where
  snapshot : (h.published p₀).snapshot = if h.snapped then s.input else p₀.snapshot
  neutral : h.snapped = false → s.input = .neutral

theorem publishesInput_of_silent {e : LogEvent m r} (hstatus : statusOf e = none) : publishesInput e = false := by
  rw [publishesInput, hstatus]

theorem Log.snapped_cons {e : LogEvent m r} (hinput : publishesInput e = false) (h : Log m r) :
    Log.snapped (e :: h) = h.snapped := by
  rw [snapped, List.any_cons, hinput, Bool.false_or]
  rfl

theorem Mirrored.publish (hmirrored : Mirrored p₀ h s) (hpublish : Publish h s h' s') : Mirrored p₀ h' s' := by
  obtain ⟨hsnapshot, hneutral⟩ := hmirrored
  cases hpublish with
  | keep hshown =>
    refine ⟨?_, ?_⟩
    · rw [hshown.input]
      exact hsnapshot
    · rw [hshown.input]
      exact hneutral
  | silent hstatus haccepted =>
    have hsnapped := Log.snapped_cons (publishesInput_of_silent hstatus) h
    refine ⟨?_, ?_⟩
    · rw [Log.published_silent hstatus, hsnapped]
      exact hsnapshot
    · rw [hsnapped]
      exact hneutral
  | accepted hlive hhead => exact ⟨(StatusPublisher.snapshot_setSenderState ..).trans hsnapshot, hneutral⟩
  | committed => exact ⟨rfl, by rintro ⟨⟩⟩
  | begun hclosed => exact ⟨rfl, by rintro ⟨⟩⟩
  | linked hlive => exact ⟨hsnapshot, hneutral⟩
  | noticed hlive => exact ⟨hsnapshot, hneutral⟩
  | entered hlive hframe =>
    subst hframe
    exact ⟨(StatusPublisher.snapshot_setLifecycle ..).trans hsnapshot, hneutral⟩
  | ended hlive hlifecycle => exact ⟨hsnapshot, hneutral⟩

end Swbt
