import Swbt.Core.Buttons
import Swbt.Protocol.Supported
import Swbt.Runtime.Engaged
/-!
# Taps as transactions

A tap presses at once and releases when its time has come, in whatever step
that is. What lies between is the invariant `Tapping`: the press is all the
command has done, or the tap is over and nothing more will come of it.
-/

set_option autoImplicit false

open Effects

namespace Swbt

variable {m : ControllerKind} {r : ReportingKind} {h h₁ h' : Log m r} {s s₁ s' : Frame m r}

/-! ## The course of a tap -/

/-- The tap command of either mode. -/
def tapCommand (r : ReportingKind) (buttons : List (Button m)) (duration : Duration) : ReportingCommand m r :=
  match r with
  | .periodic => .periodic (.common (.tap buttons duration))
  | .direct => .direct (.common (.tap buttons duration))

/-- A press that leaves its tap pending: accepted, or rejected in periodic mode. -/
def Presses (r : ReportingKind) : TransportResult Unit → Prop
  | .ok () => True
  | .error error => r = .periodic ∧ error.kind = .sendRejected

def pressError : TransportResult Unit → Option TransportError
  | .ok () => none
  | .error error => some error

variable (r) in
/-- The marks of a tap that began at `start`, with the results of its press and of its release. -/
inductive TapMarks (plan : TapPlan m) (start : Duration) (press : TransportResult Unit) :
    Option (TransportResult Unit) → List (Mark m) → Prop
  | pressed : TapMarks plan start press none (inputMarks r start plan.pressed press)
  | released {t : Duration} {release : TransportResult Unit} (hpress : Presses r press)
      (hdue : deadlineAfter start plan.duration ≤ t) :
      TapMarks plan start press (some release)
        (inputMarks r t plan.released release ++ inputMarks r start plan.pressed press)
  | ended {release : Option (TransportResult Unit)} {marks : List (Mark m)}
      (hmarks : TapMarks plan start press release marks) : TapMarks plan start press release (.ended :: marks)
  | shutdown {release : Option (TransportResult Unit)} {marks : List (Mark m)}
      (hmarks : TapMarks plan start press release marks) : TapMarks plan start press release (.shutdown :: marks)

/-- The committed input in the course of a tap. -/
def tapInput (r : ReportingKind) (before : InputState m) (plan : TapPlan m) (press : TransportResult Unit) :
    Option (TransportResult Unit) → InputState m
  | none => inputAfter r before plan.pressed press
  | some release => inputAfter r (inputAfter r before plan.pressed press) plan.released release

/-- The command has succeeded: both its reports were accepted. -/
def TapSucceeds (press : TransportResult Unit) (release : Option (TransportResult Unit)) : Prop :=
  press = .ok () ∧ release = some (.ok ())

/-- A tap as it stands: pending since its press, or over. -/
inductive Tapping (before : InputState m) (plan : TapPlan m) (start : Duration) (press : TransportResult Unit)
    (h : Log m r) (s : Frame m r) : Prop
  | held (hpress : Presses r press) (hmarks : h.marks = inputMarks r start plan.pressed press)
      (htap : s.reporting.tap = some ⟨plan.released, deadlineAfter start plan.duration, pressError press⟩)
      (hinput : s.input = inputAfter r before plan.pressed press)
  | finished {release : Option (TransportResult Unit)} (hmarks : TapMarks r plan start press release h.marks)
      (htap : s.reporting.tap = none) (hcommand : s.connectionCommandPending = none)
      (hinput : s.input = tapInput r before plan press release)
      (hresult : ∀ result, s.progress.commandResult = some result → (result = .ok () ↔ TapSucceeds press release))

/-- The result a step answers the command in flight with. -/
def WorkerStep.answer : WorkerStep → Option CommandResult
  | closed _ interrupted progress => progress.commandResult <|> interrupted.map Except.error
  | «continue» progress | failed _ progress => progress.commandResult

/-! ## What keeps it -/

theorem Reporting.tap_withTap_periodic (reporting : Reporting m .periodic) (tap : Tap m) :
    (reporting.withTap (some tap)).tap = some tap := by
  cases reporting
  rfl

theorem Reporting.tap_withTap_direct (reporting : Reporting m .direct) (released : InputState m) {releaseAt : Duration} :
    (reporting.withTap (some ⟨released, releaseAt, none⟩)).tap = some ⟨released, releaseAt, none⟩ := by
  cases reporting
  rfl

/-- A release succeeds after a press that did. -/
theorem releaseOutcome_ok {press release : TransportResult Unit} (hpress : Presses r press) :
    releaseOutcome r (pressError press) release = .ok () ↔ TapSucceeds press (some release) := by
  unfold releaseOutcome TapSucceeds
  cases r with
  | periodic =>
    rcases press with error | ⟨⟩
    · simp [pressError]
    · rcases release with error | ⟨⟩
      · simp [pressError]
      · simp [pressError]
  | direct =>
    rcases press with error | ⟨⟩
    · cases hpress.1
    · rcases release with error | ⟨⟩
      · simp [directOutcome]
      · simp [directOutcome]

theorem Frame.Sound.idle_of_tap {tap : Tap m} (hs : s.Sound) (htap : s.reporting.tap = some tap) :
    s.connectionCommandPending = none ∧ s.lifecycle.state = .ready ∧ s.progress.commandResult = none := by
  have hpending : s.reporting.hasPending = true := by
    rw [Reporting.hasPending_eq, htap]
    rfl
  have hready := hs.coherent.of_tap hpending
  refine ⟨hready.command, ?_, hs.unanswered (.inr hpending)⟩
  rw [hready.lifecycle]
  rfl

theorem Tapping.transacted {before : InputState m} {plan : TapPlan m} {start : Duration} {press : TransportResult Unit}
    (htapping : Tapping before plan start press h s) (hs : s.Sound) (hmove : Transacted h s h' s') :
    Tapping before plan start press h' s' := by
  cases htapping with
  | held hpress hmarks htap hinput =>
    obtain ⟨hidle, -, -⟩ := hs.idle_of_tap htap
    -- While the tap is held, the move keeps it, ends its session or releases it.
    cases hmove with
    | kept hunmarked hflight =>
      cases hflight with
      | same hsame =>
        exact .held hpress (hunmarked.marks.trans hmarks) (hsame.tap.trans htap) (hsame.input.trans hinput)
      | answered htap' hinput' hpending hcommand hresult =>
        rw [hidle] at hpending
        cases hpending
    | ended hended htaken hflight =>
      refine @Tapping.finished _ _ _ _ _ _ _ _ none ?_ hflight.tap hflight.command (hflight.input.trans hinput) ?_
      · rw [hended, hmarks]
        exact .ended .pressed
      · have hcut : s.reporting.tap ≠ none := by
          rw [htap]
          exact Option.some_ne_none _
        obtain ⟨error, herror⟩ := hflight.cut (.inl hcut)
        intro result hresult
        rw [herror] at hresult
        cases hresult
        exact ⟨fun hok => (nomatch hok), fun hsucceeds => (nomatch hsucceeds.2)⟩
    | released htap' hdue hreleased htaken hinput' hgone hcommand hresult =>
      rw [htap] at htap'
      cases htap'
      rename_i release
      refine @Tapping.finished _ _ _ _ _ _ _ _ (some release) ?_ hgone (hcommand.trans hidle) ?_ ?_
      · rw [hreleased, hmarks]
        exact .released hpress hdue
      · rw [hinput', hinput]
        rfl
      · intro result hanswer
        rw [hresult] at hanswer
        cases hanswer
        exact releaseOutcome_ok hpress
  | finished hmarks htap hidle hinput hresult =>
    cases hmove with
    | kept hunmarked hflight =>
      cases hflight with
      | same hsame =>
        refine .finished (hunmarked.marks ▸ hmarks) (hsame.tap.trans htap) (hsame.command.trans hidle)
          (hsame.input.trans hinput) ?_
        rw [hsame.result]
        exact hresult
      | answered htap' hinput' hpending hcommand hanswered =>
        rw [hidle] at hpending
        cases hpending
    | ended hended htaken hflight =>
      refine .finished ?_ hflight.tap hflight.command (hflight.input.trans hinput) ?_
      · rw [hended]
        exact .ended hmarks
      · rw [hflight.uncut htap hidle]
        exact hresult
    | released htap' hdue hreleased htaken hinput' hgone hcommand hanswer =>
      rw [htap] at htap'
      cases htap'

theorem InputEffect.tapping {command : ReportingCommand m r} {plan : TapPlan m} {t : Duration}
    {progress : WorkerCommandProgress} (he : InputEffect command t h s h' s' progress)
    (hready : s.lifecycle.state = .ready) (hplan : command.tapPlan s.input = some plan) (hmarks : h.marks = [])
    (hcapacity : h.asksCapacity = false) (hclock : h.clock = some t) (htap : s.reporting.tap = none)
    (hidle : s.connectionCommandPending = none) (hnone : s.progress.commandResult = none) :
    ∃ press, Tapping s.input plan t press h' (s'.settle (nonterminalCommandProgress progress).1) := by
  cases he with
  -- Only the branches of a tap remain: the others have no plan.
  | rejected herror hno =>
    rw [hno hready] at hplan
    cases hplan
  | committed hr candidate hno =>
    rw [hno] at hplan
    cases hplan
  | sent hr hready hsent hno =>
    rw [hno] at hplan
    cases hplan
  | unsent hr hready' hsent hcandidate =>
    subst hr
    obtain rfl := hcandidate plan hplan
    rename_i error
    obtain ⟨hmarked, -, hinput⟩ := hsent.marked hready hcapacity hclock
    have hsame := hsent.sameCommand
    rw [settled_direct]
    refine ⟨.error error, @Tapping.finished _ _ _ _ _ _ _ _ none ?_ ?_ (hsame.command.trans hidle) hinput ?_⟩
    · rw [hmarked, hmarks, List.append_nil]
      exact .pressed
    · exact (congrArg Reporting.tap hsame.reporting).trans htap
    · intro result hresult
      cases hresult
      exact ⟨fun hok => (nomatch hok), fun hsucceeds => (nomatch hsucceeds.1)⟩
  | pressedDirect hr hready' hsent hplan' =>
    subst hr
    rw [hplan] at hplan'
    cases hplan'
    obtain ⟨hmarked, -, hinput⟩ := hsent.marked hready hcapacity hclock
    refine ⟨.ok (), .held trivial ?_ ?_ hinput⟩
    · rw [hmarked, hmarks, List.append_nil]
    · exact Reporting.tap_withTap_direct _ _
  | pressedPeriodic hr hready' hsent hresult hplan' =>
    subst hr
    rw [hplan] at hplan'
    cases hplan'
    rename_i result firstError s₁
    obtain ⟨hmarked, -, hinput⟩ := hsent.marked hready hclock
    refine ⟨result, .held ?_ ?_ ?_ hinput⟩
    · rcases hresult with ⟨rfl, -⟩ | ⟨error, rfl, hkind, -⟩
      · trivial
      · exact ⟨rfl, hkind⟩
    · rw [hmarked, hmarks, List.append_nil]
    · refine (Reporting.tap_withTap_periodic _ _).trans ?_
      rcases hresult with ⟨rfl, rfl⟩ | ⟨error, rfl, -, rfl⟩
      · rfl
      · rfl
  | unpressed hr hready' hsent hkind hplan' =>
    subst hr
    rw [hplan] at hplan'
    cases hplan'
    rename_i error
    obtain ⟨hmarked, -, hinput⟩ := hsent.marked hready hclock
    have hsame := hsent.sameCommand
    rw [settled_periodic]
    refine ⟨.error error, @Tapping.finished _ _ _ _ _ _ _ _ none ?_ ?_ (hsame.command.trans hidle) hinput ?_⟩
    · rw [hmarked, hmarks, List.append_nil]
      exact .pressed
    · exact (congrArg Reporting.tap hsame.reporting).trans htap
    · intro result hresult
      cases hresult
      exact ⟨fun hok => (nomatch hok), fun hsucceeds => (nomatch hsucceeds.1)⟩

/-! ## Every tap of a run -/

/-- The command taken last, if it is a tap that began, stands as `Tapping` says. -/
def Tapped (h : Log m r) (s : Frame m r) : Prop :=
  ∀ (f : Frame m r) (command : ReportingCommand m r) (plan : TapPlan m), h.taken = some (f, .input command) →
    f.lifecycle.state = .ready → command.tapPlan f.input = some plan →
      ∃ start press, Tapping f.input plan start press h s

theorem Tapped.transacted (htapped : Tapped h s) (hs : s.Sound) (hmove : Transacted h s h' s') : Tapped h' s' := by
  have hsame : h'.taken = h.taken := by
    cases hmove with
    | kept hunmarked hflight => exact hunmarked.taken
    | ended hmarks htaken hflight => exact htaken
    | released htap hdue hmarks htaken hinput hgone hcommand hresult => exact htaken
  intro f command plan htaken hready hplan
  obtain ⟨start, press, htapping⟩ := htapped f command plan (hsame ▸ htaken) hready hplan
  exact ⟨start, press, htapping.transacted hs hmove⟩

theorem Undertaken.tapped (hmove : Undertaken h s h' s') : Tapped h' s' := by
  cases hmove with
  | taken hcommand htap hnone heffect hsettled =>
    subst hsettled
    intro f command plan htaken hready hplan
    rw [heffect.taken] at htaken
    cases htaken
    obtain ⟨t, heffect⟩ := heffect.of_ready hready
    obtain ⟨press, htapping⟩ := heffect.tapping (h := .call s.countCommand Op.now t :: _) hready hplan rfl rfl rfl htap
      hcommand hnone
    exact ⟨t, press, htapping⟩

theorem Move.tapped {terminal : Option WorkerCoreError} (hmove : Move h s terminal h' s') (hs : s.Sound)
    (htapped : Tapped h s) : Tapped h' s' := by
  rcases hmove.transacted hs with hkept | htaken
  · exact htapped.transacted hs hkept
  · exact htaken.tapped

theorem Path.tapped (hpath : Path h s h' s') (htapped : Tapped h s) : Tapped h' s' :=
  hpath.inv htapped fun hsound hmove htapped => hmove.tapped hsound htapped

/-- A frame with the same tap, input and command, whose result is the same or gone. -/
theorem Tapping.congr {before : InputState m} {plan : TapPlan m} {start : Duration} {press : TransportResult Unit}
    (htapping : Tapping before plan start press h s) (htap : s'.reporting.tap = s.reporting.tap)
    (hinput : s'.input = s.input) (hcommand : s'.connectionCommandPending = s.connectionCommandPending)
    (hresult : ∀ result, s'.progress.commandResult = some result → s.progress.commandResult = some result) :
    Tapping before plan start press h s' := by
  cases htapping with
  | held hpress hmarks hheld hbefore => exact .held hpress hmarks (htap.trans hheld) (hinput.trans hbefore)
  | finished hmarks hgone hidle hbefore hanswer =>
    refine .finished hmarks (htap.trans hgone) (hcommand.trans hidle) (hinput.trans hbefore) ?_
    exact fun result hsome => hanswer result (hresult result hsome)

theorem Tapped.fresh (htapped : Tapped h s) : Tapped h s.fresh := by
  intro f command plan htaken hready hplan
  obtain ⟨start, press, htapping⟩ := htapped f command plan htaken hready hplan
  exact ⟨start, press, htapping.congr rfl rfl rfl fun result hsome => nomatch hsome⟩

theorem Tapped.finish (htapped : Tapped h s) : Tapped h s.finish := by
  intro f command plan htaken hready hplan
  obtain ⟨start, press, htapping⟩ := htapped f command plan htaken hready hplan
  exact ⟨start, press, htapping.congr rfl rfl rfl fun result hsome => hsome⟩

theorem Run.tapped (hrun : Run h s) : Tapped h s := by
  induction hrun with
  | opened hnew =>
    intro f command plan htaken
    cases htaken
  | step hrun hexec ih =>
    cases hexec.post (stepRuntime_spec _ _ hrun.coherent) with
    | continued hpath hsound => exact (hpath.tapped ih.fresh).finish
    | closed hpath hsound₁ hlast hsound hclose => cases hclose
    | failed hpath hsound₁ hmove hsound hfail => cases hfail

theorem Point.tapped (hpoint : Point h s) : Tapped h s := by
  obtain ⟨h₀, s₀, hrun, hpath⟩ := hpoint.begun
  exact hpath.tapped hrun.tapped.fresh

/-! ## Replies while the tap is pending -/

/-- After `h₀` the next payload offered to the transport is `bytes`. -/
def OffersNext (bytes : List UInt8) (h₀ h : Log m r) : Prop :=
  ∃ (between : Log m r) (g : Frame m r) (result : TransportResult Unit),
    (∀ e ∈ between, offeredPayload e = none) ∧ .call g (Op.sendInterrupt bytes) result :: (between ++ h₀) <:+ h

/-- A supported subcommand is answered from the committed input, or from the
neutral one before the protocol is ready. -/
theorem EventEffect.answers {event : SessionEvent} {result : Except WorkerCoreError Bool} {channel : HidChannel}
    {raw : List UInt8} {packetId : UInt8} {bytes : List UInt8} {request : SubcommandRequest}
    (he : EventEffect event h s h' s' result) (hcurrent : s.sessions.current = some event.sessionId)
    (hevent : event.event = .hidOutput channel raw)
    (hparse : parseOutputReport raw = .ok (.subcommand packetId bytes request)) (hsupported : request.Supported) :
    ∃ action, s.sender.prepareReply s.protocol request s.input = .ok action ∧
      OffersNext action.bytes (.emit s (.processed (some event)) :: h) h' := by
  cases he with
  | dropped hstale => exact absurd hcurrent hstale
  | connected hcurrent' hevent' =>
    rw [hevent] at hevent'
    cases hevent'
  | opened hcurrent' hevent' =>
    rw [hevent] at hevent'
    cases hevent'
  | disconnected hcurrent' hevent' =>
    rw [hevent] at hevent'
    cases hevent'
  | answered hcurrent' hevent' hheld hanswered =>
    rw [hevent] at hevent'
    cases hevent'
    have hok : ∃ action, s.sender.prepareReply s.protocol request s.input = .ok action := by
      unfold ReportSender.prepareReply
      split
      · exact s.protocol.prepareSubcommand_ok hsupported _ _ _
      · exact s.protocol.prepareSubcommand_ok hsupported _ _ _
    obtain ⟨action, hprepare⟩ := hok
    refine ⟨action, hprepare, ?_⟩
    cases hanswered with
    | malformed hparse' =>
      rw [hparse] at hparse'
      cases hparse'
    | rumble hparse' =>
      rw [hparse] at hparse'
      cases hparse'
    | unprepared hparse' hprepare' =>
      rw [hparse] at hparse'
      cases hparse'
      cases hprepare.symm.trans hprepare'
    | replied hparse' hprepare' hsent =>
      rw [hparse] at hparse'
      cases hparse'
      cases hprepare.symm.trans hprepare'
      rename_i held t errors h₁ s₁ result
      refine ⟨[.emit ((s.setTap held).observe request.id) (.status (.recordSubcommand request.id)),
        .emit (s.setTap held) (.observeOutput (observationOf channel (.subcommand packetId bytes request)))],
        (s.setTap held).observe request.id, result, ?_, ?_⟩
      · simp [offeredPayload]
      · refine List.IsSuffix.trans ?_ (List.suffix_cons _ _)
        cases hsent with
        | refused error => exact List.suffix_refl _
        | accepted => exact List.suffix_cons _ _

/-! ## The end of a worker -/

theorem CleanupEvent.unmarked {mode : CloseMode} {e : LogEvent m r} (hevent : CleanupEvent mode e) :
    takenCommand e = none ∧ markOf h e = none := by
  cases hevent with
  | report hmode hclosing =>
    refine ⟨rfl, if_neg ?_⟩
    rintro ⟨-, hready, -⟩
    rw [hclosing] at hready
    cases hready
  | _ => exact ⟨rfl, rfl⟩

theorem Cleaned.unmarked {sequence : CleanupSequence} {connected publish : Bool} {nowNs : UInt64}
    {completion : CloseCompletion} (hc : Cleaned sequence connected nowNs publish h s h' s' completion) :
    Unmarked h h' ∧ s'.input = s.input ∧ s'.progress = s.progress := by
  constructor
  · obtain ⟨added, rfl, hall⟩ := hc.events
    clear hc
    induction added with
    | nil => exact .refl
    | cons e rest ih =>
      obtain ⟨hevent, hrest⟩ := List.forall_mem_cons.1 hall
      obtain ⟨htaken, hmark⟩ := hevent.unmarked
      exact (ih hrest).cons e htaken hmark
  · cases hc with
    | closing hclosing => exact ⟨rfl, rfl⟩
    | performed hlive hneutral hdrained =>
      cases hneutral with
      | skipped hwanted => exact ⟨rfl, rfl⟩
      | sent hwanted hsent =>
        have hsame := Sent.sameControl hsent
        have hprogress := Sent.progress hsent
        exact ⟨hsame.input, hprogress⟩

theorem AbandonEffect.unmarked {cause : WorkerFailureCause} {failure : Option CleanupFailure}
    (ha : AbandonEffect cause h s h' s' failure) : Unmarked h h' ∧ s'.input = s.input := by
  cases ha with
  | cleaned hcleaned =>
    obtain ⟨hunmarked, hinput, -⟩ := hcleaned.unmarked
    exact ⟨Unmarked.trans ((Unmarked.refl.cons _ rfl rfl).cons _ rfl rfl) hunmarked, hinput⟩

theorem Frame.shut_progress {s : Frame m r} (hidle : s.connectionCommandPending = none) :
    s.shut.progress = s.progress := by
  unfold Frame.shut Frame.complete
  rw [hidle]
  rfl

/-- A close cuts the pending tap. -/
theorem CloseEffect.marked {request : ShutdownRequest} {t : Duration} {step : WorkerStep}
    (hc : CloseEffect request t (.call s Op.now t :: .call s Op.takeShutdown (some request) :: h) s h' s' step)
    (hidle : s.connectionCommandPending = none) :
    h'.marks = .shutdown :: h.marks ∧ h'.taken = h.taken ∧ s'.input = s.input ∧
      step.answer = (s.progress.commandResult <|> s.reporting.tap.map fun _ => .error (cancelError r)) := by
  have hshut := Frame.shut_progress hidle
  cases hc with
  | closed hcleaned =>
    rename_i s₁ completion
    obtain ⟨⟨hmarks, htaken⟩, hinput, hprogress⟩ := hcleaned.unmarked
    refine ⟨hmarks, htaken, hinput.trans s.shut_settled.input, ?_⟩
    rw [WorkerStep.answer, Option.map_map]
    exact congrArg (fun progress : StepProgress => progress.commandResult <|> _) (hprogress.trans hshut)

theorem FailEffect.unmarked {error : WorkerCoreError} {step : WorkerStep}
    (hf : FailEffect error (.call s Op.takeShutdown none :: h) s h' s' step)
    (hidle : s.connectionCommandPending = none) :
    Unmarked h h' ∧ s'.input = s.input ∧ s'.reporting = s.reporting ∧ step.answer = s.progress.commandResult := by
  have hsame : s.completeFailure (failureOf error) = s := by
    unfold Frame.completeFailure
    rw [hidle]
  cases hf with
  | failed =>
    refine ⟨(Unmarked.refl.cons _ rfl rfl).cons _ rfl rfl, ?_⟩
    unfold Frame.fail WorkerStep.answer
    rw [hsame]
    exact ⟨rfl, rfl, rfl⟩

/-! ## The transaction -/

/-- Where a tap stands after a step: what it has done, what is committed, and,
if the command was in flight in the step, whether and how it was answered. -/
structure TapStep (before : InputState m) (plan : TapPlan m) (start : Duration) (press : TransportResult Unit)
    (release : Option (TransportResult Unit)) (h h' : Log m r) (s s' : Frame m r) (answer : Option CommandResult) :
    Prop where
  marks : TapMarks r plan start press release h'.marks
  input : s'.input = tapInput r before plan press release
  answered : s.reporting.hasPending = true ∨ ¬ Adds Untaken h h' →
    ∀ result, answer = some result → (result = .ok () ↔ TapSucceeds press release)
  pending : s.reporting.hasPending = true ∨ ¬ Adds Untaken h h' → answer = none →
    s'.reporting.hasPending = true ∧ release = none ∧ h'.marks = inputMarks r start plan.pressed press

theorem Tapping.course {before : InputState m} {plan : TapPlan m} {start : Duration} {press : TransportResult Unit}
    (htapping : Tapping before plan start press h s) :
    ∃ release, TapMarks r plan start press release h.marks ∧ s.input = tapInput r before plan press release := by
  cases htapping with
  | held hpress hmarks htap hinput =>
    refine ⟨none, ?_, hinput⟩
    rw [hmarks]
    exact .pressed
  | finished hmarks htap hidle hinput hresult => exact ⟨_, hmarks, hinput⟩

/-- A tap at the end of a step that goes on or fails. -/
theorem Tapping.step {before : InputState m} {plan : TapPlan m} {start : Duration} {press : TransportResult Unit}
    (htapping : Tapping before plan start press h₁ s₁) (s' : Frame m r) (hs : s₁.Sound) (hunmarked : Unmarked h₁ h')
    (hinput : s'.input = s₁.input) (htap : s'.reporting.tap = s₁.reporting.tap)
    (hengaged : s.reporting.hasPending = true ∨ ¬ Adds Untaken h h' → s₁.Engaged) :
    ∃ release, TapStep before plan start press release h h' s s' s₁.progress.commandResult := by
  cases htapping with
  | held hpress hmarks hheld hbefore =>
    obtain ⟨-, -, hnone⟩ := hs.idle_of_tap hheld
    have hpressed := hunmarked.marks.trans hmarks
    refine ⟨none, ?_, hinput.trans hbefore, ?_, ?_⟩
    · rw [hpressed]
      exact .pressed
    · intro _ result hresult
      rw [hnone] at hresult
      cases hresult
    · intro _ _
      refine ⟨?_, rfl, hpressed⟩
      rw [Reporting.hasPending_eq, htap, hheld]
      rfl
  | finished hmarks hgone hidle hbefore hresult =>
    refine ⟨_, hunmarked.marks ▸ hmarks, hinput.trans hbefore, fun _ => hresult, ?_⟩
    intro hflight hnone
    rcases hengaged hflight with hpending | hpending | hanswer
    · rw [hidle] at hpending
      cases hpending
    · exact absurd hgone hpending
    · exact absurd hnone hanswer

/-- A tap at the end of a step that closes. -/
theorem Tapping.closed {before : InputState m} {plan : TapPlan m} {start : Duration} {press : TransportResult Unit}
    {answer : Option CommandResult} (htapping : Tapping before plan start press h₁ s₁) (hs : s₁.Sound)
    (hmarks : h'.marks = .shutdown :: h₁.marks) (hinput : s'.input = s₁.input)
    (hanswer : answer = (s₁.progress.commandResult <|> s₁.reporting.tap.map fun _ => .error (cancelError r)))
    (hengaged : s.reporting.hasPending = true ∨ ¬ Adds Untaken h h' → s₁.Engaged) :
    ∃ release, TapStep before plan start press release h h' s s' answer := by
  cases htapping with
  | held hpress hpressed hheld hbefore =>
    obtain ⟨-, -, hnone⟩ := hs.idle_of_tap hheld
    rw [hnone, hheld] at hanswer
    refine ⟨none, ?_, hinput.trans hbefore, ?_, ?_⟩
    · rw [hmarks, hpressed]
      exact .shutdown .pressed
    · intro _ result hresult
      rw [hanswer] at hresult
      cases hresult
      exact ⟨fun hok => (nomatch hok), fun hsucceeds => (nomatch hsucceeds.2)⟩
    · intro _ hunanswered
      rw [hanswer] at hunanswered
      cases hunanswered
  | finished hcourse hgone hidle hbefore hresult =>
    replace hanswer : answer = s₁.progress.commandResult := by
      rw [hanswer, hgone]
      cases s₁.progress.commandResult <;> rfl
    refine ⟨_, ?_, hinput.trans hbefore, ?_, ?_⟩
    · rw [hmarks]
      exact .shutdown hcourse
    · rw [hanswer]
      exact fun _ => hresult
    · intro hflight hunanswered
      rw [hanswer] at hunanswered
      rcases hengaged hflight with hpending | hpending | hanswered
      · rw [hidle] at hpending
        cases hpending
      · exact absurd hgone hpending
      · exact absurd hunanswered hanswered

/-- A command that was pending at the start of a step or taken in it still is, or has its result. -/
theorem Engages.inFlight (hengages : Engages h s.fresh h₁ s₁) (hadds : Adds Untaken h₁ h')
    (hflight : s.reporting.hasPending = true ∨ ¬ Adds Untaken h h') : s₁.Engaged := by
  rcases hflight with hpending | hany
  · exact hengages.keeps (.inr (.inl ((Reporting.hasPending_iff_tap _).1 hpending)))
  · rcases hengages.takes with hnone | hengaged
    · exact absurd (hnone.trans hadds) hany
    · exact hengaged

theorem LastMove.tapped (hlast : LastMove h s h' s') (hs : s.Sound) (htapped : Tapped h s) : Tapped h' s' := by
  cases hlast with
  | none => exact htapped
  | terminal hmove => exact hmove.tapped hs htapped

theorem Tapping.idle {before : InputState m} {plan : TapPlan m} {start : Duration} {press : TransportResult Unit}
    (htapping : Tapping before plan start press h s) (hs : s.Sound) : s.connectionCommandPending = none := by
  cases htapping with
  | held hpress hmarks htap hinput => exact (hs.idle_of_tap htap).1
  | finished hmarks htap hcommand hinput hresult => exact hcommand

theorem StepEffect.tap {step : WorkerStep} (he : StepEffect h s h' s' step) (htapped : Tapped h s)
    {f : Frame m r} {command : ReportingCommand m r} {plan : TapPlan m} (htaken : h'.taken = some (f, .input command))
    (hready : f.lifecycle.state = .ready) (hplan : command.tapPlan f.input = some plan) :
    (s.reporting.hasPending = true → Adds Untaken h h') ∧
      ∃ start press release, TapStep f.input plan start press release h h' s s' step.answer := by
  have hexcludes : ∀ {h₁ : Log m r} {s₁ : Frame m r}, Engages h s.fresh h₁ s₁ → Adds Untaken h₁ h' →
      s.reporting.hasPending = true → Adds Untaken h h' := by
    intro h₁ s₁ hengages hadds hpending
    exact (hengages.excludes (.inr (.inl ((Reporting.hasPending_iff_tap _).1 hpending)))).trans hadds
  -- The tap follows the path of the step; what ends the step only adds that it is cut off.
  cases he with
  | continued hpath hsound =>
    refine ⟨hexcludes hpath.engages .refl, ?_⟩
    obtain ⟨start, press, htapping⟩ := hpath.tapped htapped.fresh f command plan htaken hready hplan
    obtain ⟨release, hstep⟩ := htapping.step (Frame.finish _) hsound .refl rfl rfl (hpath.engages.inFlight .refl)
    exact ⟨start, press, release, hstep⟩
  | closed hpath hsound₁ hlast hsound hclose =>
    rename_i h₁ h₂ s₁ s₂ request t
    have hengages := hpath.engages.trans (hlast.engages hsound₁)
    have hasked : Adds Untaken h₂ (.call s₂ Op.now t :: .call s₂ Op.takeShutdown (some request) :: h₂) :=
      Adds.untaken ((Adds.single ⟨rfl, rfl⟩).cons ⟨rfl, rfl⟩)
    have hadds := hasked.trans (Adds.untaken hclose.plain)
    refine ⟨hexcludes hengages hadds, ?_⟩
    have htapped := hlast.tapped hsound₁ (hpath.tapped htapped.fresh)
    rw [Adds.taken hadds] at htaken
    obtain ⟨start, press, htapping⟩ := htapped f command plan htaken hready hplan
    obtain ⟨hmarks, -, hinput, hanswer⟩ := hclose.marked (htapping.idle hsound)
    obtain ⟨release, hstep⟩ := htapping.closed hsound hmarks hinput hanswer (hengages.inFlight hadds)
    exact ⟨start, press, release, hstep⟩
  | failed hpath hsound₁ hmove hsound hfail =>
    rename_i h₁ h₂ s₁ s₂ error
    have hengages := hpath.engages.trans (hmove.engages hsound₁)
    have hadds : Adds Untaken h₂ h' := by
      cases hfail
      exact Adds.untaken ((Adds.single ⟨rfl, rfl⟩).cons ⟨rfl, rfl⟩)
    refine ⟨hexcludes hengages hadds, ?_⟩
    have htapped := hmove.tapped hsound₁ (hpath.tapped htapped.fresh)
    rw [Adds.taken hadds] at htaken
    obtain ⟨start, press, htapping⟩ := htapped f command plan htaken hready hplan
    obtain ⟨hunmarked, hinput, hreporting, hanswer⟩ := hfail.unmarked (htapping.idle hsound)
    obtain ⟨release, hstep⟩ := htapping.step _ hsound hunmarked hinput (congrArg Reporting.tap hreporting)
      (hengages.inFlight hadds)
    rw [hanswer]
    exact ⟨start, press, release, hstep⟩

theorem Trace.tap (htrace : Trace h s) {f : Frame m r} {command : ReportingCommand m r} {plan : TapPlan m}
    (htaken : h.taken = some (f, .input command)) (hready : f.lifecycle.state = .ready)
    (hplan : command.tapPlan f.input = some plan) :
    ∃ start press release, TapMarks r plan start press release h.marks ∧
      s.input = tapInput r f.input plan press release := by
  have hstepped : ∀ {h₀ h : Log m r} {s₀ s : Frame m r} {step : WorkerStep}, Run h₀ s₀ →
      Prog.Exec (stepRuntime s₀) h₀ h s step → h.taken = some (f, .input command) →
      ∃ start press release, TapMarks r plan start press release h.marks ∧
        s.input = tapInput r f.input plan press release := by
    intro h₀ h s₀ s step hrun hexec htaken
    obtain ⟨-, start, press, release, hstep⟩ :=
      (hexec.post (stepRuntime_spec _ _ hrun.coherent)).tap hrun.tapped htaken hready hplan
    exact ⟨start, press, release, hstep.marks, hstep.input⟩
  cases htrace with
  | running hrun =>
    obtain ⟨start, press, htapping⟩ := hrun.tapped f command plan htaken hready hplan
    exact ⟨start, press, htapping.course⟩
  | stepped hrun hexec => exact hstepped hrun hexec htaken
  | abandoned hrun hexec =>
    obtain ⟨⟨hmarks, hsame⟩, hinput⟩ := (hexec.post (completeWorkerFailure_spec _ _ _)).unmarked
    rw [hsame] at htaken
    obtain ⟨start, press, htapping⟩ := hrun.tapped f command plan htaken hready hplan
    rw [hmarks, hinput]
    exact ⟨start, press, htapping.course⟩
  | failed hrun hstep hexec =>
    obtain ⟨⟨hmarks, hsame⟩, hinput⟩ := (hexec.post (completeWorkerFailure_spec _ _ _)).unmarked
    rw [hmarks, hinput]
    exact hstepped hrun hstep (hsame ▸ htaken)

theorem tapCommand_plan (r : ReportingKind) (current : InputState m) {buttons : List (Button m)} {duration : Duration}
    (hbuttons : buttons ≠ []) (hduration : duration ≤ maxTapDuration) :
    ∃ plan, (tapCommand r buttons duration).tapPlan current = some plan ∧ plan.duration = duration ∧
      TappedOn current buttons plan.pressed ∧ TappedOff current buttons plan.released := by
  obtain ⟨plan, hplan, hfacts⟩ := tapPlan_ok current hbuttons hduration
  refine ⟨plan, ?_, hfacts⟩
  cases r with
  | periodic => exact toOption_ok hplan
  | direct => exact toOption_ok hplan

theorem tapInput_succeeds {before : InputState m} {plan : TapPlan m} {press : TransportResult Unit}
    {release : Option (TransportResult Unit)} (hsucceeds : TapSucceeds press release) :
    tapInput r before plan press release = plan.released := by
  obtain ⟨rfl, rfl⟩ := hsucceeds
  cases r with
  | periodic => rfl
  | direct => rfl

/-- While a tap is pending its pressed state is the committed input. -/
theorem Tapping.pressed {before : InputState m} {plan : TapPlan m} {start : Duration} {press : TransportResult Unit}
    (htapping : Tapping before plan start press h s) (hpending : s.reporting.hasPending = true) :
    s.input = plan.pressed := by
  cases htapping with
  | held hpress hmarks htap hinput =>
    rw [hinput]
    cases r with
    | periodic => rfl
    | direct =>
      rcases press with error | ⟨⟩
      · cases hpress.1
      · rfl
  | finished hmarks htap hcommand hinput hresult =>
    rw [Reporting.hasPending_eq, htap] at hpending
    cases hpending

/-- From a ready worker a tap presses and releases once each, the release not
before its time and not after a disconnect or a shutdown; it commits nothing
else, lets no other command in, succeeds if and only if both its reports were
accepted, and leaves supported subcommands answered. -/
theorem tap_transaction {f : Frame m r} {buttons : List (Button m)} {duration : Duration}
    (hready : f.lifecycle.state = .ready) (hbuttons : buttons ≠ []) (hduration : duration ≤ maxTapDuration) :
    ∃ plan : TapPlan m, plan.duration = duration ∧ TappedOn f.input buttons plan.pressed ∧
      TappedOff f.input buttons plan.released ∧
      (∀ press release, TapSucceeds press release → tapInput r f.input plan press release = plan.released) ∧
      (∀ {h : Log m r} {s : Frame m r}, Trace h s → h.taken = some (f, .input (tapCommand r buttons duration)) →
        ∃ start press release, TapMarks r plan start press release h.marks ∧
          s.input = tapInput r f.input plan press release) ∧
      (∀ {h h' : Log m r} {s s' : Frame m r} {step : WorkerStep}, Run h s → Prog.Exec (stepRuntime s) h h' s' step →
        h'.taken = some (f, .input (tapCommand r buttons duration)) →
          (s.reporting.hasPending = true → Adds Untaken h h') ∧
            ∃ start press release, TapStep f.input plan start press release h h' s s' step.answer) ∧
      (∀ {h h₀ : Log m r} {s g : Frame m r} {event : SessionEvent} {channel : HidChannel} {raw : List UInt8}
        {packetId : UInt8} {bytes : List UInt8} {request : SubcommandRequest}, Trace h s →
        .emit g (.processed (some event)) :: h₀ <:+ h →
        h₀.taken = some (f, .input (tapCommand r buttons duration)) → g.reporting.hasPending = true →
        event.event = .hidOutput channel raw → parseOutputReport raw = .ok (.subcommand packetId bytes request) →
        request.Supported → ∃ action, g.sender.prepareReply g.protocol request g.input = .ok action ∧
          (controlBytes action.bytes =
            if g.sender.committed.session.protocolReady then encodeControls plan.pressed else neutralControls) ∧
          OffersNext action.bytes (.emit g (.processed (some event)) :: h₀) h) := by
  obtain ⟨plan, hplan, hplanned, hpressed, hreleased⟩ := tapCommand_plan r f.input hbuttons hduration
  refine ⟨plan, hplanned, hpressed, hreleased, ?_, ?_, ?_, ?_⟩
  · intro press release hsucceeds
    exact tapInput_succeeds hsucceeds
  · intro h s htrace htaken
    exact htrace.tap htaken hready hplan
  · intro h h' s s' step hrun hexec htaken
    exact (hexec.post (stepRuntime_spec _ _ hrun.coherent)).tap hrun.tapped htaken hready hplan
  · intro h h₀ s g event channel raw packetId bytes request htrace hsuffix htaken hpending hevent hparse hsupported
    have hmet := htrace.met hsuffix
    obtain ⟨start, press, htapping⟩ := hmet.point.tapped f _ plan htaken hready hplan
    obtain ⟨h₁, s₁, result, heffect, hbefore⟩ := hmet.effect
    obtain ⟨action, hprepare, between, g', sent, hbetween, hoffer⟩ :=
      heffect.answers hmet.current hevent hparse hsupported
    refine ⟨action, hprepare, ?_, between, g', sent, hbetween, hoffer.trans hbefore⟩
    rw [ReportSender.controls_prepareReply hprepare, htapping.pressed hpending]

/-! ## A sample tap -/

def sampleButton : Button .pro := ⟨.a, by decide⟩

/-- The ready sample worker has taken a tap of button A. -/
def samplePressed : Log .pro .direct × Frame .pro .direct :=
  play (scripted .ZERO (fun _ => some (.input (tapCommand .direct [sampleButton] samplePeriod))) fun _ => []) sampleReady

theorem samplePressed_run : Run samplePressed.1 samplePressed.2 := sampleReady_run.play _ (by decide +kernel)

deriving instance DecidableEq for CommonCommand, DirectCommand

/-- The next step of the sample worker, with its clock at the time of the release. -/
def sampleRelease : Log .pro .direct × Frame .pro .direct × WorkerStep :=
  playStep (scripted samplePeriod (fun _ => none) fun _ => []) samplePressed

theorem sampleRelease_exec : Prog.Exec (stepRuntime samplePressed.2) samplePressed.1 sampleRelease.1
    sampleRelease.2.1 sampleRelease.2.2 := by
  unfold sampleRelease
  exact playStep_exec _ _

theorem sampleRelease_taken : ∃ f : Frame .pro .direct,
    sampleRelease.1.taken = some (f, .input (tapCommand .direct [sampleButton] samplePeriod)) ∧
      f.lifecycle.state = .ready := by
  have htaken : (sampleRelease.1.taken.bind fun taken => match taken.2 with
      | .input (.direct command) => some (command, taken.1.lifecycle.state)
      | _ => none) = some (.common (.tap [sampleButton] samplePeriod), .ready) := by decide +kernel
  obtain ⟨⟨f, command⟩, hcommand, htap⟩ := Option.bind_eq_some_iff.1 htaken
  cases command with
  | input command =>
    cases command with
    | direct command =>
      simp only [Option.some.injEq, Prod.mk.injEq] at htap
      obtain ⟨rfl, hready⟩ := htap
      exact ⟨f, hcommand, hready⟩
  | pair timeout => cases htap
  | reconnect timeout => cases htap

/-- The sample tap succeeds, so both its reports were accepted. -/
theorem tap_transaction_sample : ∃ (plan : TapPlan .pro) (start : Duration) (press : TransportResult Unit)
    (release : Option (TransportResult Unit)), TapMarks .direct plan start press release sampleRelease.1.marks ∧
      TapSucceeds press release ∧ sampleRelease.2.1.input = plan.released := by
  obtain ⟨f, htaken, hready⟩ := sampleRelease_taken
  have hday : samplePeriod ≤ maxTapDuration := by decide +kernel
  obtain ⟨plan, -, -, -, hreleased, -, hstep, -⟩ := tap_transaction hready (List.cons_ne_nil sampleButton []) hday
  have hpending : samplePressed.2.reporting.hasPending = true := by decide +kernel
  obtain ⟨-, start, press, release, hstep⟩ := hstep samplePressed_run sampleRelease_exec htaken
  have hok : sampleRelease.2.2.answer.any Except.isOk = true := by decide +kernel
  obtain ⟨result, hanswer, hok⟩ := (Option.any_eq_true _ _).1 hok
  rcases result with error | ⟨⟩
  · cases hok
  · have hsucceeds := (hstep.answered (.inl hpending) _ hanswer).1 rfl
    exact ⟨plan, start, press, release, hstep.marks, hsucceeds, hstep.input.trans (hreleased _ _ hsucceeds)⟩

end Swbt
