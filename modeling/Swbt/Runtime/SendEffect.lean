import Swbt.Runtime.Reporting
/-!
# What sending can do

`Sent` and `Answered` sum up the sender and the handling of output reports:
what a send or an answer adds to the log and how it changes the frame. The
theorems about timers, sessions and readiness are case analyses over them.
-/

set_option autoImplicit false

open Effects

namespace Swbt

variable {m : ControllerKind} {r : ReportingKind}

/-! ## Frames after single updates -/

namespace Frame

def accept (s : Frame m r) (bytes : List UInt8) (candidate : SenderCommit) : Frame m r :=
  { s with sender := s.sender.accept bytes candidate }

def commit (s : Frame m r) (next : InputState m) : Frame m r := { s with input := next }

def observe (s : Frame m r) (id : UInt8) : Frame m r := { s with observed := s.observed.observe id }

end Frame

/-! ## What a candidate carries -/

theorem ReportSender.head_inputCandidate (sender : ReportSender) (state : InputState m) (nowNs : UInt64) :
    (sender.inputCandidate state nowNs).1.head? = some 0x30 := head_encode0x30 _ _ _

theorem ReportSender.controls_inputCandidate (sender : ReportSender) (state : InputState m) (nowNs : UInt64) :
    controlBytes (sender.inputCandidate state nowNs).1 = encodeControls state := controls_encode0x30 _ _ _

theorem prepareReply_spec {sender : ReportSender} {protocol : SwitchHidProtocol} {request : SubcommandRequest}
    {current : InputState m} {action : PreparedOutputAction}
    (hprepare : sender.prepareReply protocol request current = .ok action) :
    Prepared m request sender.committed.nextTimer sender.committed.session action := by
  unfold ReportSender.prepareReply at hprepare
  split at hprepare
  · exact SwitchHidProtocol.prepareSubcommand_spec hprepare
  · exact SwitchHidProtocol.prepareSubcommand_spec hprepare

/-- A reply shows the committed state, or the neutral one. -/
theorem ReportSender.controls_prepareReply {sender : ReportSender} {protocol : SwitchHidProtocol}
    {request : SubcommandRequest} {current : InputState m} {action : PreparedOutputAction}
    (hprepare : sender.prepareReply protocol request current = .ok action) :
    controlBytes action.bytes =
      if sender.committed.session.protocolReady then encodeControls current else neutralControls := by
  unfold prepareReply at hprepare
  by_cases hready : sender.committed.session.protocolReady = true
  · rw [if_pos hready] at hprepare ⊢
    exact SwitchHidProtocol.controls_prepareSubcommand hprepare
  · rw [if_neg hready] at hprepare ⊢
    rw [← encodeControls_neutral (m := m)]
    exact SwitchHidProtocol.controls_prepareSubcommand hprepare

/-! ## Publishing -/

/-- The status call of `publish_status`. -/
def ReportSender.statusCall (sender : ReportSender) : StatusCall m :=
  .setSenderState sender.committed.session.reportMode sender.committed.session.imuMode.code
    sender.inputReportsAccepted sender.repliesAccepted

@[simp] theorem wp_publishStatus (h : Log m r) (s : Frame m r) (Q : Log m r → Frame m r → Unit → Prop) :
    Act.wp ReportSender.publishStatus h s Q ↔ Q (.emit s (.status s.sender.statusCall) :: h) s () := Iff.rfl

@[simp] theorem wp_commit (next : InputState m) (h : Log m r) (s : Frame m r)
    (Q : Log m r → Frame m r → Unit → Prop) :
    Act.wp (InputStateStore.commit next) h s Q ↔
      Q (.emit (s.commit next) (.status (.setSnapshot next)) :: h) (s.commit next) () := Iff.rfl

@[simp] theorem wp_snapshot (h : Log m r) (s : Frame m r) (Q : Log m r → Frame m r → InputState m → Prop) :
    Act.wp InputStateStore.snapshot h s Q ↔ Q h s s.input := Iff.rfl

@[simp] theorem wp_resetForNewSession (h : Log m r) (s : Frame m r) (Q : Log m r → Frame m r → Unit → Prop) :
    Act.wp ReportSender.resetForNewSession h s Q ↔
      Q (.emit { s with sender := { s.sender with committed := .default } }
          (.status (ReportSender.statusCall { s.sender with committed := .default })) :: h)
        { s with sender := { s.sender with committed := .default } } () := Iff.rfl

@[simp] theorem wp_resetToNeutral (h : Log m r) (s : Frame m r) (Q : Log m r → Frame m r → Unit → Prop) :
    Act.wp InputStateStore.resetToNeutral h s Q ↔
      Q (.emit (s.commit .neutral) (.status (.setSnapshot .neutral)) :: h) (s.commit .neutral) () := Iff.rfl

/-! ## Sends -/

/-- A send is accepted and commits its candidate, or is refused and changes nothing. -/
inductive Sent (bytes : List UInt8) (candidate : SenderCommit) (h : Log m r) (s : Frame m r) :
    Log m r → Frame m r → TransportResult Unit → Prop
  | accepted : Sent bytes candidate h s
      (.emit (s.accept bytes candidate) (.status (s.sender.accept bytes candidate).statusCall) ::
        .call s (Op.sendInterrupt bytes) (.ok ()) :: h)
      (s.accept bytes candidate) (.ok ())
  | refused (error : TransportError) :
      Sent bytes candidate h s (.call s (Op.sendInterrupt bytes) (.error error) :: h) s (.error error)

theorem sendCandidate_spec (bytes : List UInt8) (candidate : SenderCommit) (h : Log m r) (s : Frame m r) :
    Act.wp (ReportSender.sendCandidate bytes candidate) h s (Sent bytes candidate h s) := by
  unfold ReportSender.sendCandidate
  rw [Act.wp_bind, wp_sendInterrupt]
  intro answer
  cases answer with
  | error error => exact .refused error
  | ok accepted => exact .accepted

/-- A send of an input report of `state`. -/
def InputSent (state : InputState m) (nowNs : UInt64) (h : Log m r) (s : Frame m r) :
    Log m r → Frame m r → TransportResult Unit → Prop :=
  Sent (s.sender.inputCandidate state nowNs).1 (s.sender.inputCandidate state nowNs).2 h s

theorem sendInput_spec (state : InputState m) (nowNs : UInt64) (h : Log m r) (s : Frame m r) :
    Act.wp (ReportSender.sendInput state nowNs) h s (InputSent state nowNs h s) := by
  unfold ReportSender.sendInput
  rw [Act.wp_bind, wp_frame]
  exact sendCandidate_spec _ _ h s

/-! ## Output reports -/

/-- What a send means for the outcome of an answered output report. -/
def replyOutcome : TransportResult Unit → Except OutputHandlingError OutputHandling
  | .ok () => .ok .replyAccepted
  | .error error => .error (.transport error)

def observationOf (channel : HidChannel) (output : OutputReport) : OutputObservation :=
  ⟨channel, output.reportId, output.packetId, output.rumbleBytes⟩

/-- An output report is malformed, is rumble only, asks for something that has
no reply, or has its reply sent. -/
inductive Answered (channel : HidChannel) (raw : List UInt8) (current : InputState m) (h : Log m r) (s : Frame m r) :
    Log m r → Frame m r → Except OutputHandlingError OutputHandling → Prop
  | malformed {error : ProtocolError} (hparse : parseOutputReport raw = .error error) :
      Answered channel raw current h s h s (.error (.protocol error))
  | rumble {packetId : UInt8} {bytes : List UInt8} (hparse : parseOutputReport raw = .ok (.rumble packetId bytes)) :
      Answered channel raw current h s
        (.emit s (.observeOutput (observationOf channel (.rumble packetId bytes))) :: h) s (.ok .rumbleOnly)
  | unprepared {packetId : UInt8} {bytes : List UInt8} {request : SubcommandRequest} {error : ProtocolError}
      (hparse : parseOutputReport raw = .ok (.subcommand packetId bytes request))
      (hprepare : s.sender.prepareReply s.protocol request current = .error error) :
      Answered channel raw current h s
        (.emit (s.observe request.id) (.status (.recordSubcommand request.id)) ::
          .emit s (.observeOutput (observationOf channel (.subcommand packetId bytes request))) :: h)
        (s.observe request.id) (.error (.protocol error))
  | replied {packetId : UInt8} {bytes : List UInt8} {request : SubcommandRequest} {action : PreparedOutputAction}
      {h' : Log m r} {s' : Frame m r} {result : TransportResult Unit}
      (hparse : parseOutputReport raw = .ok (.subcommand packetId bytes request))
      (hprepare : s.sender.prepareReply s.protocol request current = .ok action)
      (hsent : Sent action.bytes (s.sender.replyCandidate action)
        (.emit (s.observe request.id) (.status (.recordSubcommand request.id)) ::
          .emit s (.observeOutput (observationOf channel (.subcommand packetId bytes request))) :: h)
        (s.observe request.id) h' s' result) :
      Answered channel raw current h s h' s' (replyOutcome result)

theorem handleOutput_spec (channel : HidChannel) (raw : List UInt8) (current : InputState m) (h : Log m r)
    (s : Frame m r) : Act.wp (handleOutput channel raw current) h s (Answered channel raw current h s) := by
  unfold handleOutput
  split
  · rename_i error hparse
    exact .malformed hparse
  · rename_i output hparse
    rw [Act.wp_bind, wp_observeOutput]
    split
    · exact .rumble hparse
    · rename_i packetId bytes request
      simp only [Act.wp_bind, wp_update, wp_frame, wp_status, ObservedSubcommands.last_observe]
      split
      · rename_i error hprepare
        exact .unprepared hparse hprepare
      · rename_i action hprepare
        rw [Act.wp_bind]
        refine Act.wp_mono (sendCandidate_spec _ _ _ _) ?_
        rintro h' s' (error | ⟨⟩) hsent
        · exact .replied hparse hprepare hsent
        · exact .replied hparse hprepare hsent

end Swbt
