import Swbt.Protocol.Decoding
import Swbt.Runtime.Published
/-!
# The console

What a console learns that decodes the reports of a session. Each reads as the
input committed last before it, and in direct mode every input that is
committed has just been read.
-/

set_option autoImplicit false

open Bits Effects

namespace Swbt

variable {m : ControllerKind} {r : ReportingKind} {h h' : Log m r} {s s' : Frame m r}

/-! ## Reading reports -/

/-- The buttons and the sticks in a report are those of `input`. -/
structure Pictures (report : List UInt8) (input : InputState m) : Prop where
  buttons : (decode0x30 m report).buttons = input.buttons.iter
  leftStick : (decode0x30 m report).leftStick = (input.leftStick.x.toNat, input.leftStick.y.toNat)
  rightStick : (decode0x30 m report).rightStick = (input.rightStick.x.toNat, input.rightStick.y.toNat)

/-- A report sent from `sent` reads as `input`, with the frames of its IMU if the session sends them as they are. -/
structure ReadsAs (sent : Frame m r) (report : List UInt8) (input : InputState m) : Prop where
  timer : (decode0x30 m report).timer = sent.sender.committed.nextTimer
  pictures : Pictures report input
  imu : sent.sender.committed.session.imuMode = .standard →
    decodeStandardImu (decode0x30 m report).imuBlock = input.imuFrames

theorem bitAt_of_controls {report report' : List UInt8} (hcontrols : controlBytes report = controlBytes report')
    {i : Nat} (hlow : 24 ≤ i) (hhigh : i < 96) : bitAt report i = bitAt report' i := by
  have hbyte := congrArg (fun bytes => bytes[i / 8 - 3]?) hcontrols
  simp only [getElem?_controlBytes] at hbyte
  rw [if_pos (by omega), if_pos (by omega), show 3 + (i / 8 - 3) = i / 8 by omega] at hbyte
  exact bitAt_of_getElem? hbyte

theorem field_of_controls {report report' : List UInt8} (hcontrols : controlBytes report = controlBytes report')
    {start width : Nat} (hlow : 24 ≤ start) (hhigh : start + width ≤ 96) :
    field report start width = field report' start width := by
  unfold field
  congr
  funext i
  exact bitAt_of_controls hcontrols (by omega) (by omega)

/-- Reports with the same controls picture the same input. -/
theorem Pictures.of_controls {report report' : List UInt8} {input : InputState m} (hpictures : Pictures report input)
    (hcontrols : controlBytes report' = controlBytes report) : Pictures report' input := by
  refine ⟨?_, ?_, ?_⟩
  · rw [← hpictures.buttons]
    refine List.filter_congr ?_
    intro kind hkind
    obtain ⟨i, hbit, hlow, hhigh⟩ := wireBit_supported hkind
    rw [hbit, Option.any_some, Option.any_some, bitAt_of_controls hcontrols hlow (by omega)]
  · rw [← hpictures.leftStick]
    change (field report' 48 12, field report' 60 12) = (field report 48 12, field report 60 12)
    rw [field_of_controls hcontrols (by omega) (by omega), field_of_controls hcontrols (by omega) (by omega)]
  · rw [← hpictures.rightStick]
    change (field report' 72 12, field report' 84 12) = (field report 72 12, field report 84 12)
    rw [field_of_controls hcontrols (by omega) (by omega), field_of_controls hcontrols (by omega) (by omega)]

theorem pictures_encode0x30 (input : InputState m) (timer : UInt8) {block : List UInt8} (hblock : block.length = 36) :
    Pictures (encode0x30 input timer block).bytes input := by
  have hdecoded := decode_encode0x30 input timer hblock
  exact ⟨congrArg (·.buttons) hdecoded, congrArg (·.leftStick) hdecoded, congrArg (·.rightStick) hdecoded⟩

/-- Bytes with the controls of `input` picture it. -/
theorem pictures_of_controls {report : List UInt8} {input : InputState m}
    (hcontrols : controlBytes report = encodeControls input) : Pictures report input := by
  have hblock : (zeros 36).length = 36 := rfl
  refine (pictures_encode0x30 input 0 hblock).of_controls ?_
  rw [hcontrols, controls_encode0x30]

theorem ReportSender.readsAs_inputCandidate (s : Frame m r) (input : InputState m) (nowNs : UInt64) :
    ReadsAs s (s.sender.inputCandidate input nowNs).1 input := by
  have hblock := length_encodeImuBlock s.sender.committed.session.imuEncodingState s.sender.committed.session.imuMode
    input.imuFrames m.spec.protocol.gyroscopeCalibration nowNs
  have hdecoded := decode_encode0x30 input s.sender.committed.nextTimer hblock
  refine ⟨congrArg (·.timer) hdecoded, pictures_encode0x30 input _ hblock, ?_⟩
  intro hstandard
  refine (congrArg (fun report => decodeStandardImu report.imuBlock) hdecoded).trans ?_
  rw [hstandard]
  exact decode_encodeStandardImu input.imuFrames

/-! ## Reading a log -/

/-- The input that an event commits. -/
def committedBy : LogEvent m r → Option (InputState m)
  | .emit _ (.status (.setSnapshot input)) => some input
  | _ => none

/-- The accepted report of an event with its first byte, and the frame it was sent from. -/
def sentReport (id : UInt8) : LogEvent m r → Option (Frame m r × List UInt8)
  | .call s (.sendInterrupt payload) (.ok ()) => if payload.head? = some id then some (s, payload) else none
  | _ => none

namespace Log

/-- The inputs the session has had, the latest first. It begins with the neutral one. -/
def inputs : Log m r → List (InputState m)
  | [] => [.neutral]
  | e :: h => match begunSession e with
    | some _ => [.neutral]
    | none => (committedBy e).toList ++ inputs h

end Log

theorem sentReport_of_accepted {id : UInt8} {e : LogEvent m r} (haccepted : acceptedPayload e = none) :
    sentReport id e = none := by
  unfold sentReport
  split
  · cases haccepted
  · rfl

theorem sentReport_of_head {s : Frame m r} {id : UInt8} {bytes : List UInt8} {result : TransportResult Unit}
    (hhead : bytes.head? ≠ some id) : sentReport id (.call s (Op.sendInterrupt bytes) result) = none := by
  cases result with
  | error error => rfl
  | ok accepted => exact if_neg hhead

theorem sentReport_offered {s : Frame m r} {id : UInt8} {bytes report : List UInt8} {sent : Frame m r}
    (hsome : sentReport id (.call s (Op.sendInterrupt bytes) (.ok ())) = some (sent, report)) :
    sent = s ∧ report = bytes := by
  obtain ⟨-, hsame⟩ := Option.ite_none_right_eq_some.1 hsome
  cases hsame
  exact ⟨rfl, rfl⟩

/-! ## What an event tells -/

/-- What a 0x30 report of the log `h` reads as, that was accepted at `e` after `before`. A worker that lives shows
the input committed last, or in direct mode one that it commits next; a worker that closes shows the neutral one. -/
inductive Look (h : Log m r) (e : LogEvent m r) (before : Log m r) (sent : Frame m r) (report : List UInt8) : Prop
  | latest {input : InputState m} {past : List (InputState m)} (halive : sent.lifecycle ≠ ⟨.closing⟩)
      (hlatest : before.inputs = input :: past) (hreads : ReadsAs sent report input)
  | sent {input : InputState m} {f g : Frame m r} (halive : sent.lifecycle ≠ ⟨.closing⟩) (hr : r = .direct)
      (hnext : .emit g (.status (.setSnapshot input)) :: .emit f (.status f.sender.statusCall) :: e :: before <:+ h)
      (hreads : ReadsAs sent report input)
  | last (hclosing : sent.lifecycle = ⟨.closing⟩) (hreads : ReadsAs sent report .neutral)

/-- Where an input comes from that a direct worker commits from `s` after `before`: a session begins with the
neutral one, and any other reads off the report just accepted. -/
inductive Backed (before : Log m r) (s : Frame m r) : InputState m → Prop
  | begun (hclosed : s.sessions.current = none) : Backed before s .neutral
  | shown {input : InputState m} {f sent : Frame m r} {report : List UInt8} {past : Log m r}
      (hbefore : before =
        .emit f (.status f.sender.statusCall) :: .call sent (Op.sendInterrupt report) (.ok ()) :: past)
      (hhead : report.head? = some 0x30) (hreads : ReadsAs sent report input) : Backed before s input

/-- What a console can tell from an event `e` of the log `h`, that came after `before`. -/
structure Readable (h : Log m r) (e : LogEvent m r) (before : Log m r) : Prop where
  look : ∀ sent report, sentReport 0x30 e = some (sent, report) → Look h e before sent report
  backed : r = .direct → ∀ input, committedBy e = some input → Backed before e.state input
  reply : ∀ sent report, sentReport 0x21 e = some (sent, report) → ∃ input past, before.inputs = input :: past ∧
    Pictures report (if sent.sender.committed.session.protocolReady then input else .neutral)
  closed : (∃ e' ∈ before, e'.state.lifecycle = ⟨.closing⟩) →
    ∀ sent report, sentReport 0x30 e = some (sent, report) → ReadsAs sent report .neutral

/-- An event that neither begins a session, nor is a report accepted, nor commits an input. -/
structure Unseen (e : LogEvent m r) : Prop where
  begun : begunSession e = none
  accepted : acceptedPayload e = none
  input : committedBy e = none

variable {whole before : Log m r} {input : InputState m} {e : LogEvent m r} {sent : Frame m r} {report : List UInt8}

theorem Unseen.of_silent (hsilent : Silent e) : Unseen e := by
  refine ⟨hsilent.begun, hsilent.accepted, ?_⟩
  have hstatus := hsilent.status
  unfold committedBy
  split
  · cases hstatus
  · rfl

theorem Unseen.inputs (hunseen : Unseen e) (h : Log m r) : Log.inputs (e :: h) = h.inputs := by
  rw [Log.inputs, hunseen.begun, hunseen.input]
  rfl

/-- An event that is no report accepted. -/
theorem Readable.of_unaccepted (haccepted : acceptedPayload e = none)
    (hbacked : r = .direct → ∀ input, committedBy e = some input → Backed before e.state input) :
    Readable whole e before := by
  have hsent : ∀ id, sentReport id e = none := fun id => sentReport_of_accepted haccepted
  refine ⟨?_, hbacked, ?_, ?_⟩
  · intro sent report hsome
    rw [hsent] at hsome
    cases hsome
  · intro sent report hsome
    rw [hsent] at hsome
    cases hsome
  · intro hclosed sent report hsome
    rw [hsent] at hsome
    cases hsome

theorem Unseen.readable (hunseen : Unseen e) : Readable whole e before := by
  refine .of_unaccepted hunseen.accepted ?_
  intro hr input hsome
  rw [hunseen.input] at hsome
  cases hsome

theorem Look.mono (hlook : Look h e before sent report) (hsuffix : h <:+ h') : Look h' e before sent report := by
  cases hlook with
  | latest halive hlatest hreads => exact .latest halive hlatest hreads
  | sent halive hr hnext hreads => exact .sent halive hr (hnext.trans hsuffix) hreads
  | last hclosing hreads => exact .last hclosing hreads

/-- A log that goes on says the same of its older events. -/
theorem Readable.mono (hreadable : Readable h e before) (hsuffix : h <:+ h') : Readable h' e before :=
  ⟨fun sent report hsome => (hreadable.look sent report hsome).mono hsuffix, hreadable.backed, hreadable.reply,
    hreadable.closed⟩

/-- A report of an input is readable where it is a look. -/
theorem Readable.of_input {nowNs : UInt64}
    (hlook : Look whole (.call s (Op.sendInterrupt (s.sender.inputCandidate input nowNs).1) (.ok ())) before s
      (s.sender.inputCandidate input nowNs).1)
    (hclosed : (∃ e' ∈ before, e'.state.lifecycle = ⟨.closing⟩) → input = .neutral) :
    Readable whole (.call s (Op.sendInterrupt (s.sender.inputCandidate input nowNs).1) (.ok ())) before := by
  refine ⟨?_, ?_, ?_, ?_⟩
  · intro sent report hsome
    obtain ⟨rfl, rfl⟩ := sentReport_offered hsome
    exact hlook
  · intro hr input hsome
    cases hsome
  · intro sent report hsome
    rw [sentReport_of_head (by rw [s.sender.head_inputCandidate]; decide)] at hsome
    cases hsome
  · intro hbefore sent report hsome
    obtain ⟨rfl, rfl⟩ := sentReport_offered hsome
    rw [← hclosed hbefore]
    exact ReportSender.readsAs_inputCandidate sent input nowNs

/-- A reply pictures what its sender was given to show. -/
theorem Readable.of_reply {request : SubcommandRequest} {action : PreparedOutputAction}
    (hprepare : s.sender.prepareReply s.protocol request s.input = .ok action)
    (hlatest : ∃ past, before.inputs = s.input :: past) :
    Readable whole (.call s (Op.sendInterrupt action.bytes) (.ok ())) before := by
  have hhead := (prepareReply_spec hprepare).head
  have hnone : sentReport 0x30 (.call s (Op.sendInterrupt action.bytes) (.ok ())) = none :=
    sentReport_of_head (by rw [hhead]; decide)
  refine ⟨?_, ?_, ?_, ?_⟩
  · intro sent report hsome
    rw [hnone] at hsome
    cases hsome
  · intro hr input hsome
    cases hsome
  · intro sent report hsome
    obtain ⟨rfl, rfl⟩ := sentReport_offered hsome
    obtain ⟨past, hlatest⟩ := hlatest
    refine ⟨_, past, hlatest, pictures_of_controls ((ReportSender.controls_prepareReply hprepare).trans ?_)⟩
    split
    · rfl
    · exact encodeControls_neutral.symm
  · intro hbefore sent report hsome
    rw [hnone] at hsome
    cases hsome

/-! ## Listening -/

/-- What a console has been told by the events so far, and the input it has to know of. -/
structure Listening (h : Log m r) (s : Frame m r) : Prop where
  latest : ∃ past, h.inputs = s.input :: past
  readable : Always (Readable h) h

theorem readable_onward (hall : Always (Readable h) h) (hsuffix : h <:+ whole) : Always (Readable whole) h :=
  hall.mono fun _ _ hreadable => hreadable.mono hsuffix

/-- Nothing before a worker that lives is of a worker that closes. -/
theorem unclosed (hlived : ∀ e ∈ h, Living e) : ¬ ∃ e ∈ h, e.state.lifecycle = ⟨.closing⟩ := by
  rintro ⟨e, hmem, hclosing⟩
  exact (hlived e hmem).alive hclosing

theorem Listening.unseen (hlistens : Listening h s) (hunseen : Unseen e) (hinput : s'.input = s.input) :
    Listening (e :: h) s' where
  latest := by
    rw [hunseen.inputs, hinput]
    exact hlistens.latest
  readable := ⟨hunseen.readable, readable_onward hlistens.readable (List.suffix_cons _ _)⟩

theorem Listening.keep (hlistens : Listening h s) (hinput : s'.input = s.input) : Listening h s' where
  latest := by
    rw [hinput]
    exact hlistens.latest
  readable := hlistens.readable

/-- A send of a readable report that commits no input. -/
theorem Sent.listens {bytes : List UInt8} {candidate : SenderCommit} {result : TransportResult Unit}
    (hsent : Sent bytes candidate h s h' s' result) (hlistens : Listening h s)
    (hreadable : ∀ whole, Readable whole (.call s (Op.sendInterrupt bytes) (.ok ())) h) : Listening h' s' := by
  cases hsent with
  | refused error => exact hlistens.unseen ⟨rfl, rfl, rfl⟩ rfl
  | accepted =>
    refine Listening.unseen (s := s) ⟨hlistens.latest, hreadable _, ?_⟩ ⟨rfl, rfl, rfl⟩ rfl
    exact readable_onward hlistens.readable (List.suffix_cons _ _)

/-- A report of the committed input. -/
theorem InputSent.listens {nowNs : UInt64} {result : TransportResult Unit}
    (hsent : InputSent s.input nowNs h s h' s' result) (halive : s.lifecycle ≠ ⟨.closing⟩) (hlived : ∀ e ∈ h, Living e)
    (hlistens : Listening h s) : Listening h' s' := by
  obtain ⟨past, hlatest⟩ := hlistens.latest
  refine Sent.listens hsent hlistens fun whole => .of_input ?_ fun hclosed => absurd hclosed (unclosed hlived)
  exact .latest halive hlatest (ReportSender.readsAs_inputCandidate s s.input nowNs)

/-- A direct send that is accepted commits what it has shown. -/
theorem DirectSent.listens {candidate : InputState m} {nowNs : UInt64} {result : TransportResult Unit}
    (hr : r = .direct) (hsent : DirectSent candidate nowNs h s h' s' result) (halive : s.lifecycle ≠ ⟨.closing⟩)
    (hlived : ∀ e ∈ h, Living e) (hlistens : Listening h s) : Listening h' s' := by
  cases hsent with
  | refused hsent =>
    cases hsent
    exact hlistens.unseen ⟨rfl, rfl, rfl⟩ rfl
  | accepted hsent =>
    cases hsent
    have hreads := ReportSender.readsAs_inputCandidate s candidate nowNs
    -- The status of the sender comes between the report and the commit.
    refine ⟨⟨h.inputs, rfl⟩, ?_, ?_, ?_, ?_⟩
    · refine .of_unaccepted rfl ?_
      rintro - input ⟨⟩
      exact .shown rfl (s.sender.head_inputCandidate candidate nowNs) hreads
    · exact Unseen.readable ⟨rfl, rfl, rfl⟩
    · refine .of_input (.sent halive hr (List.suffix_refl _) hreads) ?_
      exact fun hclosed => absurd hclosed (unclosed hlived)
    · exact readable_onward hlistens.readable ⟨[_, _, _], rfl⟩

/-- A periodic command commits an input that nothing has shown yet. -/
theorem Listening.committed (hr : r = .periodic) (hlistens : Listening h s) (candidate : InputState m) :
    Listening (.emit (s.commit candidate) (.status (.setSnapshot candidate)) :: h) (s.commit candidate) := by
  refine ⟨⟨h.inputs, rfl⟩, ?_, readable_onward hlistens.readable (List.suffix_cons _ _)⟩
  refine .of_unaccepted rfl ?_
  intro hdirect
  rw [hr] at hdirect
  cases hdirect

/-- A session begins with the neutral input. -/
theorem Listening.begun (hlistens : Listening h s) (hclosed : s.sessions.current = none) (kind : ConnectionCommandKind)
    (deadline : Duration) : Listening (s.beginLog deadline h) (s.begin kind deadline) := by
  have hreset : Listening
      (.emit s.resetSender (.status (ReportSender.statusCall { s.sender with committed := .default })) :: h) s :=
    hlistens.unseen ⟨rfl, rfl, rfl⟩ rfl
  refine ⟨⟨[], rfl⟩, ?_, ?_, readable_onward hreset.readable ⟨[_, _], rfl⟩⟩
  · refine .of_unaccepted rfl ?_
    rintro - input ⟨⟩
  · refine .of_unaccepted rfl ?_
    rintro - input ⟨⟩
    exact .begun hclosed

theorem Deed.listens (hdeed : Deed h s h' s') (halive : s.lifecycle ≠ ⟨.closing⟩) (hlived : ∀ e ∈ h, Living e)
    (hlistens : Listening h s) : Listening h' s' := by
  cases hdeed with
  | internal hsteady => exact hlistens.keep hsteady.input
  | quiet hstate hquiet => exact hlistens.unseen (.of_silent (quietEvent_silent hquiet)) rfl
  | taken hcommand htap hidle => exact hlistens.unseen ⟨rfl, rfl, rfl⟩ rfl
  | begun hopen hclosed => exact hlistens.begun hclosed _ _
  | linked hlive => exact hlistens.unseen ⟨rfl, rfl, rfl⟩ rfl
  | noticed hlive => exact hlistens.unseen ⟨rfl, rfl, rfl⟩ rfl
  | replied hlive hneutral hrequest hprepare hsent hsteady =>
    have hanswered := Sent.listens hsent hlistens fun whole => .of_reply hprepare hlistens.latest
    exact (hanswered.keep hsteady.input).unseen ⟨rfl, rfl, rfl⟩ rfl
  | reported hlive hneutral hsent => exact hsent.listens halive hlived hlistens
  | delivered hr hlive hready hsent => exact hsent.listens hr halive hlived hlistens
  | committed hr hidle => exact hlistens.committed hr _
  | scheduled hlive hclock hstart => exact hlistens.keep rfl
  | skipped hlive hclock hpolicy hticks => exact hlistens.unseen ⟨rfl, rfl, rfl⟩ rfl
  | automatic hlive hneutral hclock hpolicy hticks hsent =>
    refine InputSent.listens hsent halive (List.forall_mem_cons.2 ⟨⟨halive, rfl⟩, hlived⟩) ?_
    exact hlistens.unseen ⟨rfl, rfl, rfl⟩ rfl
  | readied hlive hconnecting hneutral => exact hlistens.unseen ⟨rfl, rfl, rfl⟩ rfl
  | ended hlive hlifecycle => exact hlistens.unseen ⟨rfl, rfl, rfl⟩ rfl

/-- Deeds tell of a worker that lives. -/
theorem Deeds.listens (hdeeds : Deeds h s h' s') (halive : s.lifecycle ≠ ⟨.closing⟩) (hlived : ∀ e ∈ h, Living e)
    (hlistens : Listening h s) : Listening h' s' := by
  refine (Chain.inv (P := fun h s => s.lifecycle ≠ ⟨.closing⟩ ∧ (∀ e ∈ h, Living e) ∧ Listening h s) hdeeds
    ⟨halive, hlived, hlistens⟩ ?_).2.2
  rintro h s h' s' hdeed ⟨halive, hlived, hlistens⟩
  obtain ⟨halive', hadds⟩ := hdeed.living halive
  exact ⟨halive', hadds.all hlived, hdeed.listens halive hlived hlistens⟩

/-! ## Ends -/

/-- An end adds no report but the neutral one of a close. -/
theorem Ending.readable (hend : Ending h s h' s') (hall : Always (Readable h) h) : Always (Readable h') h' := by
  have hevent : ∀ {e : LogEvent m r}, Unseen e → Always (Readable (e :: h)) (e :: h) :=
    fun hunseen => ⟨hunseen.readable, readable_onward hall (List.suffix_cons _ _)⟩
  -- An end reports once at most, when it closes with neutral.
  cases hend with
  | internal hsettled => exact hall
  | call hstate hcall => exact hevent (.of_silent (endCall_silent hcall))
  | failed halive => exact hevent ⟨rfl, rfl, rfl⟩
  | abandoned => exact hevent ⟨rfl, rfl, rfl⟩
  | closing publish =>
    cases publish with
    | true => exact hevent ⟨rfl, rfl, rfl⟩
    | false => exact hall
  | neutral hlive hclosing hsent =>
    cases hsent with
    | refused error => exact hevent ⟨rfl, rfl, rfl⟩
    | accepted =>
      refine ⟨Unseen.readable ⟨rfl, rfl, rfl⟩, ?_, readable_onward hall ⟨[_, _], rfl⟩⟩
      exact .of_input (.last hclosing (ReportSender.readsAs_inputCandidate s .neutral _)) fun _ => rfl
  | closed => exact hevent ⟨rfl, rfl, rfl⟩
  | dropped => exact hall

/-! ## Traces -/

theorem WorkerCore.IsNew.listens {core : WorkerCore m r} (hnew : core.IsNew) : Listening core.openLog core.start := by
  have hinput : core.start.input = .neutral := by
    cases hnew with
    | direct protocol budget => rfl
    | periodic hnew =>
      unfold newPeriodic at hnew
      split at hnew
      · cases hnew
      · cases hnew
        rfl
  refine ⟨⟨[], ?_⟩, Unseen.readable ⟨rfl, rfl, rfl⟩, trivial⟩
  rw [hinput]
  rfl

/-- Every report that is accepted reads as the input committed last before it,
or in direct mode as the one committed with it, and no direct worker commits
an input that has not just been shown. A reply pictures the committed input
too, once the session is ready for input. From a close on there is nothing to
read but the neutral input. -/
theorem console_follows (htrace : Trace h s) : ∀ e before, e :: before <:+ h → Readable h e before := by
  obtain ⟨core, hnew, h₁, s₁, hdeeds, hends⟩ := htrace.split
  obtain ⟨halive, hlived⟩ := hnew.living
  have hlistens := hdeeds.listens halive hlived hnew.listens
  exact always_iff.1 (hends.inv (P := fun h _ => Always (Readable h) h) hlistens.readable Ending.readable)

/-- The sample worker, with its button held, is closed. -/
def sampleClosed : Log .pro .direct × Frame .pro .direct × WorkerStep :=
  playStep (requested (.explicit .withNeutral)) sampleHeld

theorem sampleClosed_exec :
    Prog.Exec (stepRuntime sampleHeld.2) sampleHeld.1 sampleClosed.1 sampleClosed.2.1 sampleClosed.2.2 := by
  unfold sampleClosed
  exact playStep_exec _ _

/-- A console has followed the sample worker: it has seen the button, and the neutral input before and after. -/
theorem console_follows_sample :
    (∀ e before, e :: before <:+ sampleClosed.1 → Readable sampleClosed.1 e before) ∧
    (sampleClosed.1.filterMap (sentReport 0x30)).map (fun sent => (decode0x30 .pro sent.2).buttons) = [[], [.a], []] ∧
    (sampleClosed.1.filterMap (sentReport 0x21)).length = 3 := by
  have htrace : Trace sampleClosed.1 sampleClosed.2.1 := .stepped sampleHeld_run sampleClosed_exec
  refine ⟨console_follows htrace, ?_, ?_⟩
  · decide +kernel
  · decide +kernel

end Swbt
