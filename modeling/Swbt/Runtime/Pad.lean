import Swbt.Effects.Reach
import Swbt.Effects.Sequential
import Swbt.Runtime.Tap
/-!
# The pad

What a worker is to its clients: a pad that is ready or not and holds one
input state, and answers one command at a time. Everything else, the handshake,
the reports, the timers and the order of it all, is gone from it.
-/

set_option autoImplicit false

open Effects

namespace Swbt

variable {m : ControllerKind} {r : ReportingKind}

/-! ## What commands ask for -/

/-- The state a command asks for. A tap asks for its release. -/
def CommonCommand.target (current : InputState m) : CommonCommand m → Except Error (InputState m)
  | .press buttons => pressCandidate current buttons
  | .release buttons => releaseCandidate current buttons
  | .tap buttons duration => (Swbt.tapPlan current buttons duration).map TapPlan.released
  | .neutral => .ok .neutral

def ReportingCommand.target (current : InputState m) : ReportingCommand m r → Except Error (InputState m)
  | .periodic (.common command) | .direct (.common command) => command.target current
  | .periodic (.apply candidate) | .direct (.send candidate) => .ok candidate

/-- The error of a command that needs a ready controller. -/
def notReadyError : ReportingKind → WorkerCommandError
  | .periodic => .periodic .notReady
  | .direct => .direct .notReady

/-- The error of a command with a report that was refused. -/
def sendError : ReportingKind → TransportError → WorkerCommandError
  | .periodic, error => .periodic (.transport error none)
  | .direct, error => .direct (.transport error)

/-! ## The pad -/

structure Pad (m : ControllerKind) where
  ready : Bool
  input : InputState m

namespace Pad

def new : Pad m := ⟨false, .neutral⟩

/-- A session may end at any time. The input stays. -/
inductive Drifts : Pad m → Pad m → Prop
  | ended {input : InputState m} : Drifts ⟨true, input⟩ ⟨false, input⟩

/-- The answers to a command, and the pad after them. -/
inductive Answers (pad : Pad m) : RuntimeCommand m r → CommandResult → Pad m → Prop
  | unstarted {kind : ConnectionCommandKind} {timeout : Duration} {error : WorkerCoreError} :
      Answers pad (connectCommand kind timeout) (.error (.connection ⟨kind, .begin error⟩)) pad
  | connected {kind : ConnectionCommandKind} {timeout : Duration} (hopen : pad.ready = false) :
      Answers pad (connectCommand kind timeout) (.ok ()) ⟨true, .neutral⟩
  | unconnected {kind : ConnectionCommandKind} {timeout : Duration} {error : ReadinessError} (hopen : pad.ready = false) :
      Answers pad (connectCommand kind timeout) (.error (.connection ⟨kind, .readiness error⟩)) ⟨false, .neutral⟩
  | done {command : ReportingCommand m r} {input : InputState m} (htarget : command.target pad.input = .ok input)
      (hready : r = .direct ∨ command.tapPlan pad.input ≠ none → pad.ready = true) :
      Answers pad (.input command) (.ok ()) ⟨pad.ready, input⟩
  | invalid {command : ReportingCommand m r} {error : Error} (htarget : command.target pad.input = .error error)
      (hready : r = .direct → pad.ready = true) : Answers pad (.input command) (.error (.input error)) pad
  | unready {command : ReportingCommand m r} (hopen : pad.ready = false)
      (hneeds : r = .direct ∨ command.tapPlan pad.input ≠ none) :
      Answers pad (.input command) (.error (notReadyError r)) pad
  | unsent {command : ReportingCommand m r} {error : TransportError} (hr : r = .direct) (hready : pad.ready = true)
      (hkind : error.kind = .sendRejected) : Answers pad (.input command) (.error (sendError r error)) pad
  | unreleased {command : ReportingCommand m r} {plan : TapPlan m} {error : TransportError} (hr : r = .direct)
      (hready : pad.ready = true) (hplan : command.tapPlan pad.input = some plan) (hkind : error.kind = .sendRejected) :
      Answers pad (.input command) (.error (sendError r error)) ⟨true, plan.pressed⟩
  | unheard {command : ReportingCommand m r} {plan : TapPlan m} {error : TransportError} (hr : r = .periodic)
      (hready : pad.ready = true) (hplan : command.tapPlan pad.input = some plan) (hkind : error.kind = .sendRejected) :
      Answers pad (.input command) (.error (sendError r error)) ⟨true, plan.released⟩
  | cut {command : ReportingCommand m r} {plan : TapPlan m} {reason : Option UInt8} (hready : pad.ready = true)
      (hplan : command.tapPlan pad.input = some plan) :
      Answers pad (.input command) (.error (disconnectError r reason)) ⟨false, plan.pressed⟩

end Pad

variable (m r) in
/-- The pad as a sequential object. -/
def pad : Sequential (Pad m) (RuntimeCommand m r) CommandResult := ⟨Pad.Answers, Pad.Drifts⟩

/-! ## Workers as pads -/

/-- The pad a worker is when no command is in flight. -/
def Frame.pad (s : Frame m r) : Pad m := ⟨decide (s.lifecycle.state = .ready), s.input⟩

/-- A worker at rest. -/
def Pad.Rests (pad : Pad m) (s : Frame m r) : Prop := s.pad = pad ∧ ¬ s.Engaged

/-- A worker with a command in flight that it took as `pad`. While it connects, it is the pad it begins as: not ready,
and neutral. -/
inductive Pad.Serves (pad : Pad m) : RuntimeCommand m r → Frame m r → Prop
  | connecting {kind : ConnectionCommandKind} {timeout : Duration} {s : Frame m r} (hopen : pad.ready = false)
      (hcommand : s.connectionCommandPending = some kind) (hnew : s.pad = Pad.new) :
      Serves pad (connectCommand kind timeout) s
  | tapping {command : ReportingCommand m r} {plan : TapPlan m} {tap : Tap m} {s : Frame m r} (hready : pad.ready = true)
      (hplan : command.tapPlan pad.input = some plan) (htap : s.reporting.tap = some tap)
      (hreleased : tap.released = plan.released) (hinput : s.input = plan.pressed)
      (hfirst : ∀ error, tap.firstError = some error → r = .periodic ∧ error.kind = .sendRejected) :
      Serves pad (.input command) s
  | answered {command : RuntimeCommand m r} {result : CommandResult} {after : Pad m} {s : Frame m r}
      (hresult : s.progress.commandResult = some result) (hcommand : s.connectionCommandPending = none)
      (htap : s.reporting.tap = none) (hanswers : Answers pad command result after)
      (hdrifted : (Swbt.pad m r).Drifted after s.pad) : Serves pad command s

variable {h h₁ h' : Log m r} {s s₁ s' : Frame m r}

theorem Frame.pad_congr (hlifecycle : s'.lifecycle = s.lifecycle) (hinput : s'.input = s.input) : s'.pad = s.pad := by
  rw [Frame.pad, Frame.pad, hlifecycle, hinput]

theorem Frame.pad_ready (hready : s.lifecycle.state = .ready) : s.pad = ⟨true, s.input⟩ := by
  rw [Frame.pad, hready]
  rfl

theorem Frame.pad_unready (hready : s.lifecycle.state ≠ .ready) : s.pad = ⟨false, s.input⟩ := by
  rw [Frame.pad, decide_eq_false hready]

theorem Pad.Serves.engaged {pad : Pad m} {command : RuntimeCommand m r} (hserves : pad.Serves command s) : s.Engaged := by
  cases hserves with
  | connecting hopen hcommand hnew => exact .inl (Option.isSome_iff_exists.2 ⟨_, hcommand⟩)
  | tapping hready hplan htap hreleased hinput hfirst =>
    refine .inr (.inl ?_)
    rw [htap]
    exact Option.some_ne_none _
  | answered hresult hcommand htap hanswers hdrifted =>
    refine .inr (.inr ?_)
    rw [hresult]
    exact Option.some_ne_none _

/-- A pad whose session ends, if it has one. -/
theorem Frame.pad_drifts (s : Frame m r) : (Swbt.pad m r).Drifted s.pad ⟨false, s.input⟩ := by
  by_cases hready : s.lifecycle.state = .ready
  · rw [Frame.pad_ready hready]
    exact .single .ended
  · rw [Frame.pad_unready hready]

/-! ## Commands -/

/-- What a command that completes says of the state it asked for. -/
inductive Judged (command : ReportingCommand m r) (s s' : Frame m r) : WorkerCommandProgress → Prop
  | pending : Judged command s s' .pending
  | done (htarget : command.target s.input = .ok s'.input) (hlifecycle : s'.lifecycle = s.lifecycle)
      (hneeds : r = .direct ∨ command.tapPlan s.input ≠ none → s.lifecycle.state = .ready) :
      Judged command s s' (.complete (.ok ()))
  | invalid {error : Error} (htarget : command.target s.input = .error error) (hsame : s' = s)
      (hneeds : r = .direct → s.lifecycle.state = .ready) : Judged command s s' (.complete (.error (.input error)))
  | unready (hready : s.lifecycle.state ≠ .ready) (hsame : s' = s)
      (hneeds : r = .direct ∨ command.tapPlan s.input ≠ none) :
      Judged command s s' (.complete (.error (notReadyError r)))
  | refused {error : TransportError} : Judged command s s' (.complete (.error (sendError r error)))

theorem completeInputCandidate_judged {command : PeriodicCommand m} (candidate : Except Error (InputState m))
    {h : Log m .periodic} {s : Frame m .periodic} (htarget : (ReportingCommand.periodic command).target s.input = candidate)
    (hplan : (ReportingCommand.periodic command).tapPlan s.input = none) :
    Act.wp (completeInputCandidate candidate) h s fun _ s' => Judged (.periodic command) s s' := by
  cases candidate with
  | error error => exact .invalid htarget rfl (by simp)
  | ok candidate => exact .done htarget rfl (by simp [hplan])

theorem periodicCommand_judged (command : PeriodicCommand m) (t : Duration) (h : Log m .periodic) (s : Frame m .periodic) :
    Act.wp (Periodic.handleCommand command (s.lifecycle.state = .ready) t) h s
      fun _ s' => Judged (.periodic command) s s' := by
  unfold Periodic.handleCommand
  split
  · exact completeInputCandidate_judged (.ok _) rfl rfl
  · rw [Act.wp_bind, wp_snapshot]
    exact completeInputCandidate_judged _ rfl rfl
  · rw [Act.wp_bind, wp_snapshot]
    exact completeInputCandidate_judged _ rfl rfl
  · exact completeInputCandidate_judged (.ok _) rfl rfl
  · rename_i buttons duration
    rw [Act.wp_bind, wp_snapshot]
    split
    · rename_i error hplan
      refine .invalid ?_ rfl (by simp)
      change (tapPlan s.input buttons duration).map TapPlan.released = _
      rw [hplan]
      rfl
    · rename_i plan hplan
      have hplan := toOption_ok hplan
      rw [Act.wp_bind]
      unfold Periodic.beginTap
      by_cases hready : s.lifecycle.state = .ready
      · simp only [hready, decide_true, Bool.not_true, Bool.false_eq_true, if_false, Act.wp_bind]
        refine Act.wp_mono (Prog.wp_trivial _ _) ?_
        rintro h' s' (error | ⟨⟩) -
        · dsimp only
          split
          · exact .refused
          · exact .pending
        · exact .pending
      · simp only [hready, decide_false, Bool.not_false, if_true]
        refine .unready hready rfl (.inr ?_)
        rw [show (ReportingCommand.periodic (.common (.tap buttons duration))).tapPlan s.input = some plan from hplan]
        exact Option.some_ne_none _

theorem DirectSent.judged {command : ReportingCommand m r} {candidate : InputState m} {nowNs : UInt64}
    (hsent : DirectSent candidate nowNs h s h' s' (.ok ())) (htarget : command.target s.input = .ok candidate)
    (hready : s.lifecycle.state = .ready) : Judged command s s' (.complete (.ok ())) := by
  have hlifecycle := hsent.sameCommand.lifecycle
  refine .done ?_ hlifecycle fun _ => hready
  cases hsent with
  | accepted hsent => exact htarget

theorem completeCandidate_judged {command : DirectCommand m} (candidate : Except Error (InputState m)) (t : Duration)
    {h : Log m .direct} {s : Frame m .direct} (hready : s.lifecycle.state = .ready)
    (htarget : (ReportingCommand.direct command).target s.input = candidate) :
    Act.wp (Direct.completeCandidate candidate true t) h s fun _ s' => Judged (.direct command) s s' := by
  cases candidate with
  | error error => exact .invalid htarget rfl fun _ => hready
  | ok candidate =>
    unfold Direct.completeCandidate Direct.completeSend
    simp only [Bool.not_true, Bool.false_eq_true, if_false, Act.wp_bind]
    refine Act.wp_mono (sendDirect_spec candidate _ h s) ?_
    rintro h' s' (error | ⟨⟩) hsent
    · exact .refused
    · exact hsent.judged htarget hready

theorem directCommand_judged (command : DirectCommand m) (t : Duration) (h : Log m .direct) (s : Frame m .direct) :
    Act.wp (Direct.handleCommand command (s.lifecycle.state = .ready) t) h s
      fun _ s' => Judged (.direct command) s s' := by
  unfold Direct.handleCommand
  by_cases hready : s.lifecycle.state = .ready
  · simp only [hready, decide_true, Bool.not_true, Bool.false_eq_true, if_false]
    split
    · exact completeCandidate_judged (.ok _) t hready rfl
    · rw [Act.wp_bind, wp_snapshot]
      exact completeCandidate_judged _ t hready rfl
    · rw [Act.wp_bind, wp_snapshot]
      exact completeCandidate_judged _ t hready rfl
    · exact completeCandidate_judged (.ok _) t hready rfl
    · rename_i buttons duration
      rw [Act.wp_bind, wp_snapshot]
      split
      · rename_i error hplan
        refine .invalid ?_ rfl fun _ => hready
        change (tapPlan s.input buttons duration).map TapPlan.released = _
        rw [hplan]
        rfl
      · rw [Act.wp_bind]
        unfold Direct.beginTap
        simp only [Bool.not_true, Bool.false_eq_true, if_false, Act.wp_bind]
        refine Act.wp_mono (Prog.wp_trivial _ _) ?_
        rintro h' s' (error | ⟨⟩) -
        · exact .refused
        · exact .pending
  · simp only [hready, decide_false, Bool.not_false, if_true]
    exact .unready hready rfl (.inl rfl)

theorem handleCommand_judged (command : ReportingCommand m r) (t : Duration) (h : Log m r) (s : Frame m r) :
    Act.wp (Reporting.handleCommand command (s.lifecycle.state = .ready) t) h s fun _ s' => Judged command s s' := by
  cases command with
  | periodic command => exact periodicCommand_judged command t h s
  | direct command => exact directCommand_judged command t h s

/-- A worker between two parts of a step takes input commands. -/
theorem Coherent.alive {core : WorkerCore m r} (hc : Coherent core) : core.lifecycle.ensureInputCommand = .ok () := by
  rcases hc.lifecycle_live with hlive | hlive | hlive
  all_goals rw [hlive]; rfl

theorem runCommand_judges (command : RuntimeCommand m r) (h : Log m r) {s : Frame m r} (hs : s.Sound) :
    Act.wp (runCommand command) h s fun _ s' progress => ∀ input, command = .input input → Judged input s s' progress := by
  cases command with
  | pair timeout => exact Act.wp_mono (Prog.wp_trivial _ _) (by simp)
  | reconnect timeout => exact Act.wp_mono (Prog.wp_trivial _ _) (by simp)
  | input command =>
    unfold runCommand
    rw [Act.wp_bind, wp_frame]
    dsimp only
    rw [hs.coherent.alive]
    simp only [Act.wp_bind, wp_now]
    intro t
    refine Act.wp_mono (handleCommand_judged command t _ s) ?_
    rintro h' s' progress hjudged input ⟨⟩
    exact hjudged

theorem DirectSent.input {candidate : InputState m} {nowNs : UInt64} (hsent : DirectSent candidate nowNs h s h' s' (.ok ())) :
    s'.input = candidate := by
  cases hsent with
  | accepted hsent => rfl

theorem DirectSent.input_refused {candidate : InputState m} {nowNs : UInt64} {error : TransportError}
    (hsent : DirectSent candidate nowNs h s h' s' (.error error)) : s'.input = s.input := by
  cases hsent with
  | refused hsent => exact (Sent.sameControl hsent).input

theorem PeriodicSent.input {candidate : InputState m} {nowNs : UInt64} {result : TransportResult Unit}
    (hsent : PeriodicSent candidate nowNs h s h' s' result) : s'.input = candidate := by
  have hinput := (Sent.sameControl hsent).input
  exact hinput

theorem Reporting.tap_withTap_some (reporting : Reporting m r) (tap : Tap m) (hfirst : r = .direct → tap.firstError = none) :
    (reporting.withTap (some tap)).tap = some tap := by
  obtain ⟨released, releaseAt, firstError⟩ := tap
  cases reporting with
  | periodic runtime => rfl
  | direct runtime =>
    obtain rfl : firstError = none := hfirst rfl
    rfl

/-- A terminal report is refused in another way than by a rejection. -/
theorem sendError_settled {error : TransportError} :
    (nonterminalCommandProgress (.complete (.error (sendError r error)))).1 = .complete (.error (sendError r error)) ∧
      ((nonterminalCommandProgress (.complete (.error (sendError r error)))).2 = none → error.kind = .sendRejected) := by
  cases r with
  | periodic =>
    refine ⟨settled_periodic error none, fun hterminal => ?_⟩
    by_contra hkind
    simp [nonterminalCommandProgress, classifyPeriodicError, sendError, hkind] at hterminal
  | direct =>
    refine ⟨settled_direct error, fun hterminal => ?_⟩
    by_contra hkind
    simp [nonterminalCommandProgress, sendError, hkind] at hterminal

theorem notReadyError_settled :
    (nonterminalCommandProgress (.complete (.error (notReadyError r)))).1 = .complete (.error (notReadyError r)) := by
  cases r with
  | periodic => rfl
  | direct => rfl

/-- The answer of a command that changed nothing but the input. -/
theorem SameCommand.serves {command : RuntimeCommand m r} {result : CommandResult} {after : Pad m} (hsame : SameCommand s s')
    (hcommand : s.connectionCommandPending = none) (htap : s.reporting.tap = none)
    (hanswers : s.pad.Answers command result after) (hpad : s'.pad = after) : s.pad.Serves command (s'.answer result) := by
  refine .answered rfl (hsame.command.trans hcommand) ((congrArg Reporting.tap hsame.reporting).trans htap) hanswers ?_
  rw [← hpad]
  exact .refl

/-- A command that is not terminal is served by the pad its worker was. -/
theorem InputEffect.serves {command : ReportingCommand m r} {t : Duration} {progress : WorkerCommandProgress}
    (he : InputEffect command t h s h' s' progress) (hjudged : Judged command s s' progress)
    (hcommand : s.connectionCommandPending = none) (htap : s.reporting.tap = none)
    (hterminal : (nonterminalCommandProgress progress).2 = none) :
    s.pad.Serves (.input command) (s'.settle (nonterminalCommandProgress progress).1) := by
  have hready : s.pad.ready = true ↔ s.lifecycle.state = .ready := decide_eq_true_iff
  have hrefl : SameCommand s s := ⟨rfl, rfl, rfl, rfl⟩
  have hdone : SameCommand s s' → Judged command s s' (.complete (.ok ())) →
      s.pad.Serves (.input command) (s'.answer (.ok ())) := by
    intro hsame hjudged
    cases hjudged with
    | done htarget hlifecycle hneeds =>
      refine hsame.serves hcommand htap (.done htarget fun hwants => hready.2 (hneeds hwants)) ?_
      rw [Frame.pad, hlifecycle]
      rfl
  cases he with
  | committed hr candidate hplan => exact hdone ⟨rfl, rfl, rfl, rfl⟩ hjudged
  | sent hr hstate hsent hplan => exact hdone hsent.sameCommand hjudged
  | rejected herror hplan =>
    cases hjudged with
    | invalid htarget hsame hneeds =>
      exact hrefl.serves hcommand htap (.invalid htarget fun hdirect => hready.2 (hneeds hdirect)) rfl
    | unready hstate hsame hneeds =>
      rw [notReadyError_settled]
      exact hrefl.serves hcommand htap (.unready (decide_eq_false hstate) hneeds) rfl
    | refused =>
      cases r with
      | periodic => cases herror
      | direct => cases herror
  | unsent hr hstate hsent hplan =>
    subst hr
    have hkind := sendError_settled (r := .direct) |>.2 hterminal
    rw [settled_direct]
    refine hsent.sameCommand.serves hcommand htap (.unsent rfl (hready.2 hstate) hkind) ?_
    exact Frame.pad_congr hsent.sameCommand.lifecycle hsent.input_refused
  | pressedDirect hr hstate hsent hplan =>
    refine .tapping (hready.2 hstate) hplan (Reporting.tap_withTap_some _ _ fun _ => rfl) rfl hsent.input ?_
    rintro error ⟨⟩
  | pressedPeriodic hr hstate hsent hresult hplan =>
    subst hr
    refine .tapping (hready.2 hstate) hplan (Reporting.tap_withTap_some _ _ (by simp)) rfl hsent.input ?_
    intro error hfirst
    rcases hresult with ⟨-, hnone⟩ | ⟨error', -, hkind, hsome⟩
    · rw [hnone] at hfirst
      cases hfirst
    · rw [hsome] at hfirst
      cases hfirst
      exact ⟨rfl, hkind⟩
  | unpressed hr hstate hsent hkind hplan =>
    subst hr
    exact absurd ((sendError_settled (r := .periodic)).2 hterminal) hkind

/-- What a command begins is served by the pad its worker was. -/
theorem CommandEffect.serves {command : RuntimeCommand m r} {progress : WorkerCommandProgress} (hs : s.Sound)
    (he : CommandEffect h s command h' s' progress)
    (hjudged : ∀ input, command = .input input → Judged input s s' progress)
    (hcommand : s.connectionCommandPending = none) (htap : s.reporting.tap = none)
    (hterminal : (nonterminalCommandProgress progress).2 = none) :
    s.pad.Serves command (s'.settle (nonterminalCommandProgress progress).1) := by
  have hrefl : SameCommand s s := ⟨rfl, rfl, rfl, rfl⟩
  cases he with
  | unstarted => exact hrefl.serves hcommand htap .unstarted rfl
  | refused hopen => exact hrefl.serves hcommand htap .unstarted rfl
  | begun hopen =>
    refine .connecting (decide_eq_false ?_) rfl rfl
    rw [LifecycleStateMachine.state, hopen]
    decide
  | ended hended => cases hs.coherent.alive.symm.trans hended
  | input heffect => exact heffect.serves (hjudged _ rfl) hcommand htap hterminal

/-! ## Moves -/

/-- What a step that takes no command does to the pad and the command in flight. -/
inductive PadShift (s s' : Frame m r) : Prop
  | same (hpad : s'.pad = s.pad) (hflight : SameFlight s s')
  | connected (hpending : s.connectionCommandPending.isSome = true) (hpad : s'.pad = ⟨true, s.input⟩)
      (hcommand : s'.connectionCommandPending = none) (htap : s'.reporting.tap = none)
      (hresult : s'.progress.commandResult = some (.ok ()))
  | ended (hpad : s'.pad = ⟨false, s.input⟩) (hcommand : s'.connectionCommandPending = none)
      (htap : s'.reporting.tap = none)
      (hpending : ∀ kind, s.connectionCommandPending = some kind →
        ∃ error, s'.progress.commandResult = some (.error (.connection ⟨kind, .readiness error⟩)))
      (hcut : s.reporting.tap ≠ none → ∃ reason, s'.progress.commandResult = some (.error (disconnectError r reason)))
      (hfree : s.connectionCommandPending = none → s.reporting.tap = none →
        s'.progress.commandResult = s.progress.commandResult)
  | released {tap : Tap m} {result : TransportResult Unit} (htap : s.reporting.tap = some tap)
      (hpad : s'.pad = ⟨s.pad.ready, inputAfter r s.input tap.released result⟩)
      (hcommand : s'.connectionCommandPending = none) (hgone : s'.reporting.tap = none)
      (hresult : s'.progress.commandResult = some (releaseOutcome r tap.firstError result))
      (hkind : ∀ error, result = .error error → error.kind = .sendRejected)

/-- A connection that fails answers its command. -/
theorem Frame.failConnection_result (s : Frame m r) (error : ReadinessError) {kind : ConnectionCommandKind}
    (hpending : s.connectionCommandPending = some kind) :
    (s.failConnection error).progress.commandResult = some (.error (.connection ⟨kind, .readiness error⟩)) := by
  unfold failConnection completeFailure complete
  rw [hpending]
  rfl

theorem IsOpen.pad (hopen : IsOpen s.toWorkerCore) : s.pad = ⟨false, s.input⟩ := by
  refine Frame.pad_unready ?_
  rw [hopen.lifecycle]
  decide

theorem IsOpen.noTap (hopen : IsOpen s.toWorkerCore) : s.reporting.tap = none := by
  have hnone := Reporting.hasPending_of_idle hopen.idle
  rwa [Reporting.hasPending_eq, Option.isSome_eq_false_iff, Option.isNone_iff_eq_none] at hnone

theorem EventEffect.shifts {event : SessionEvent} {result : Except WorkerCoreError Bool}
    (he : EventEffect event h s h' s' result) (hs : s.Sound) : PadShift s s' := by
  cases he with
  | dropped hstale => exact .same rfl ⟨rfl, rfl, rfl, rfl⟩
  | connected hcurrent hevent => exact .same rfl ⟨rfl, rfl, rfl, rfl⟩
  | opened hcurrent hevent => exact .same rfl ⟨rfl, rfl, rfl, rfl⟩
  | answered hcurrent hevent hheld hanswered =>
    obtain ⟨hlifecycle, -, -, hcommand, -, hinput, -, hprogress⟩ := hanswered.keeps
    have hresult := congrArg StepProgress.commandResult hprogress
    refine .same (Frame.pad_congr hlifecycle hinput) ⟨?_, hinput, hcommand, hresult⟩
    exact (Reporting.tap_recorded ..).trans (Reporting.tap_withTap_tap _ _)
  -- The end of the session cuts a pending connection or a pending tap, whichever there is.
  | disconnected hcurrent hevent =>
    rename_i reason
    have hlive : s.sessions.current ≠ none := by
      rw [hcurrent]
      exact Option.some_ne_none _
    have hopen := disconnect_open hs hcurrent reason
    have hflight := Frame.disconnect_flight hs hlive reason
    refine .ended (hopen.pad.trans (by rw [hflight.input])) hopen.command hopen.noTap ?_ ?_ fun hcommand htap =>
      hflight.uncut htap hcommand
    · intro kind hpending
      obtain ⟨work, hwork, hconnecting⟩ := hs.coherent.of_command (by rw [hpending]; rfl)
      refine ⟨.disconnected reason, ?_⟩
      have hcut : s.cutTap reason = s := by
        unfold Frame.cutTap
        rw [hconnecting.tap]
      unfold Frame.disconnect Frame.cutConnection
      rw [hcut, hwork]
      exact Frame.failConnection_result s.takeConnection _ hpending
    · intro htap
      refine ⟨reason, ?_⟩
      have hready := hs.coherent.of_tap ((Reporting.hasPending_iff_tap _).2 htap)
      obtain ⟨tap, hsome⟩ := Option.ne_none_iff_exists'.1 htap
      have hcut : s.cutTap reason = ((s.setTap none).answer (.error (disconnectError r reason))).setImmediate := by
        unfold Frame.cutTap
        rw [hsome]
      have hnone : (s.cutTap reason).connection = none := by
        rw [hcut]
        exact hready.connection
      unfold Frame.disconnect Frame.cutConnection
      rw [hnone, hcut]
      rfl

/-- A connection that ends before it is ready. -/
theorem Frame.abort_shifts {s : Frame m r} (s₁ : Frame m r) {work : ConnectionWork} (hc : IsConnecting work s.toWorkerCore)
    (hwork : s₁.connection = none) (hlifecycle : s₁.lifecycle = s.lifecycle) (hinput : s₁.input = s.input)
    (hcommand : s₁.connectionCommandPending = s.connectionCommandPending) (error : ReadinessError) :
    PadShift s (s₁.abort error) := by
  have hopen := abort_open (hlifecycle.trans hc.lifecycle) hwork error
  have hkept : (s₁.abort error).input = s₁.input := (s₁.failConnection_flight error).2.1
  refine .ended (hopen.pad.trans ?_) hopen.command hopen.noTap ?_ ?_ ?_
  · rw [hkept, hinput]
  · exact fun kind hpending => ⟨error, s₁.failConnection_result error (hcommand.trans hpending)⟩
  · exact fun htap => absurd hc.tap htap
  · intro hnone
    have hsome := hc.command
    rw [hnone] at hsome
    cases hsome

theorem DriveEffect.shifts {t : Duration} {actions : Nat} (he : DriveEffect t h s h' s' (.ok actions)) (hs : s.Sound) :
    PadShift s s' := by
  cases he with
  | idle hnone => exact .same rfl ⟨rfl, rfl, rfl, rfl⟩
  | aborted hwork hinactive =>
    exact Frame.abort_shifts s.takeConnection (hs.coherent.of_connection hwork) rfl rfl rfl rfl _
  | pending hwork hactive hhandshake hevaluated hresult =>
    obtain ⟨hsame₁, -, hwork₁, -⟩ := hhandshake.sameControl (hs.coherent.of_connection hwork).work
    obtain ⟨hsame₂, -⟩ := hevaluated.sameControl hwork₁
    have hsame := hsame₁.trans hsame₂
    exact .same (Frame.pad_congr hsame.lifecycle hsame.input) ⟨hsame.tap, hsame.input, hsame.command, hsame.result⟩
  | evaluationFailed hwork hactive hhandshake hevaluated hresult =>
    have hc := hs.coherent.of_connection hwork
    obtain ⟨hsame₁, -, hwork₁, -⟩ := hhandshake.sameControl hc.work
    obtain ⟨hsame₂, -⟩ := hevaluated.sameControl hwork₁
    have hsame := hsame₁.trans hsame₂
    exact Frame.abort_shifts _ hc hsame.connection hsame.lifecycle hsame.input hsame.command _
  | ready hwork hactive hhandshake hevaluated hresult =>
    have hc := hs.coherent.of_connection hwork
    obtain ⟨hsame₁, -, hwork₁, -⟩ := hhandshake.sameControl hc.work
    obtain ⟨hsame₂, -⟩ := hevaluated.sameControl hwork₁
    have hsame := hsame₁.trans hsame₂
    rename_i s₂
    obtain ⟨kind, hpending⟩ := Option.isSome_iff_exists.1 hc.command
    have hcommand : s₂.markReady.connectionCommandPending = some kind := hsame.command.trans hpending
    unfold Frame.complete
    rw [hcommand]
    refine .connected hc.command ?_ rfl (hsame.tap.trans hc.tap) rfl
    exact (Frame.pad_ready rfl).trans (congrArg (Pad.mk true) hsame.input)

/-- What a release reports is terminal unless its report was taken or rejected. -/
theorem Released.kind {tap : Tap m} {t : Duration} {result : CommandResult} (hreleased : Released tap t h s h' s' result)
    (hterminal : (nonterminalCommandProgress (.complete result)).2 = none) :
    ∃ sent, s'.input = inputAfter r s.input tap.released sent ∧ SameCommand s s' ∧ s'.lifecycle = s.lifecycle ∧
      (nonterminalCommandProgress (.complete result)).1 = .complete (releaseOutcome r tap.firstError sent) ∧
      ∀ error, sent = .error error → error.kind = .sendRejected := by
  cases hreleased with
  | periodic hr hsent =>
    subst hr
    rename_i sent
    refine ⟨sent, hsent.input, hsent.sameCommand, hsent.sameCommand.lifecycle, ?_, ?_⟩
    · rcases tap.firstError with _ | first
      · rcases sent with error | ⟨⟩
        · exact settled_periodic error none
        · rfl
      · rcases sent with error | ⟨⟩
        · exact settled_periodic first _
        · exact settled_periodic first none
    · rintro error rfl
      by_contra hkind
      obtain ⟨released, releaseAt, _ | first⟩ := tap
      · simp [nonterminalCommandProgress, periodicOutcome, releaseError, classifyPeriodicError, hkind] at hterminal
      · simp [nonterminalCommandProgress, periodicOutcome, releaseError, classifyPeriodicError, hkind] at hterminal
  | direct hr hsent =>
    subst hr
    rename_i sent
    rcases sent with error | ⟨⟩
    · refine ⟨.error error, hsent.input_refused, hsent.sameCommand, hsent.sameCommand.lifecycle, settled_direct error, ?_⟩
      rintro error' ⟨⟩
      by_contra hkind
      simp [nonterminalCommandProgress, directOutcome, hkind] at hterminal
    · refine ⟨.ok (), hsent.input, hsent.sameCommand, hsent.sameCommand.lifecycle, rfl, ?_⟩
      rintro error ⟨⟩

/-- What is terminal is an error. -/
theorem terminal_settled {progress : WorkerCommandProgress} (hterminal : (nonterminalCommandProgress progress).2 ≠ none) :
    ∃ error, (nonterminalCommandProgress progress).1 = .complete (.error error) := by
  rcases progress with (error | _) | _
  · cases error with
    | periodic error => exact ⟨_, rfl⟩
    | direct error =>
      cases error with
      | transport error =>
        unfold nonterminalCommandProgress
        dsimp only
        split
        · exact ⟨_, rfl⟩
        · exact ⟨_, rfl⟩
      | _ => exact absurd rfl hterminal
    | _ => exact absurd rfl hterminal
  · exact absurd rfl hterminal
  · exact absurd rfl hterminal

/-- A worker that fails has given its command in flight an error, if it has given it anything new. -/
def Refuses (terminal : Option WorkerCoreError) (s' : Frame m r) : Prop :=
  terminal ≠ none ∧ ∃ error, s'.progress.commandResult = some (.error error)

theorem DueEffect.shifts {t : Duration} {due : ReportingDue} (he : DueEffect t h s h' s' due) (hs : s.Sound) :
    PadShift s (s'.recordDue due) ∨ Refuses due.terminal (s'.recordDue due) := by
  cases he with
  | quiet htap hpolicy => exact .inl (.same rfl ⟨rfl, rfl, rfl, rfl⟩)
  | failed hpolicy herror => exact .inl (.same rfl ⟨rfl, rfl, rfl, rfl⟩)
  | backpressured htap hpolicy hticks => exact .inl (.same rfl ⟨Reporting.tap_withPolicy _ _, rfl, rfl, rfl⟩)
  | automatic hpolicy hticks hsent herrors =>
    have hsame := Sent.sameControl hsent
    refine .inl (.same (Frame.pad_congr hsame.lifecycle hsame.input) ⟨?_, hsame.input, hsame.command, hsame.result⟩)
    exact hsame.tap.trans (Reporting.tap_withPolicy _ _)
  | released htap hdue hreleased =>
    rename_i result
    obtain ⟨hcommand, -, -⟩ := hs.idle_of_tap htap
    by_cases hterminal : (nonterminalCommandProgress (.complete result)).2 = none
    · obtain ⟨sent, hinput, hsame, hlifecycle, houtcome, hkind⟩ := hreleased.kind hterminal
      unfold Frame.recordDue Frame.settleDue
      dsimp only
      rw [houtcome]
      refine .inl (.released htap ?_ (hsame.command.trans hcommand) ?_ rfl hkind)
      · exact congrArg₂ Pad.mk (congrArg (fun machine => decide (LifecycleStateMachine.state machine = .ready)) hlifecycle) hinput
      · exact (congrArg Reporting.tap hsame.reporting).trans (Reporting.tap_withTap_none _)
    · obtain ⟨error, hsettled⟩ := terminal_settled hterminal
      refine .inr ⟨hterminal, error, ?_⟩
      unfold Frame.recordDue Frame.settleDue
      dsimp only
      rw [hsettled]
      rfl

theorem DriveEffect.shifts_failed {t : Duration} {error : WorkerCoreError} (he : DriveEffect t h s h' s' (.error error))
    (hs : s.Sound) : PadShift s s' := by
  cases he with
  | failed hwork hactive hhandshake =>
    obtain ⟨hsame, -⟩ := hhandshake.sameControl (hs.coherent.of_connection hwork).work
    exact .same (Frame.pad_congr hsame.lifecycle hsame.input) ⟨hsame.tap, hsame.input, hsame.command, hsame.result⟩

theorem Move.shifts {terminal : Option WorkerCoreError} (hmove : Move h s terminal h' s') (hs : s.Sound)
    (huntaken : Adds Untaken h h') : PadShift s s' ∨ Refuses terminal s' := by
  cases hmove with
  | unrequested => exact .inl (.same rfl ⟨rfl, rfl, rfl, rfl⟩)
  | noCommand hcommand htap => exact .inl (.same rfl ⟨rfl, rfl, rfl, rfl⟩)
  | polled => exact .inl (.same rfl ⟨rfl, rfl, rfl, rfl⟩)
  | pollFailed => exact .inl (.same rfl ⟨rfl, rfl, rfl, rfl⟩)
  | untagged => exact .inl (.same rfl ⟨rfl, rfl, rfl, rfl⟩)
  | progress hresult => exact .inl (.same rfl ⟨rfl, rfl, rfl, hresult⟩)
  | command hcommand htap hresult heffect =>
    rw [Reporting.hasPending_eq, Option.isSome_eq_false_iff, Option.isNone_iff_eq_none] at htap
    exact absurd huntaken (Undertaken.taken hcommand htap hresult heffect rfl).takes
  | event heffect => exact .inl (heffect.shifts hs)
  | drive heffect =>
    rename_i result
    cases result with
    | error error => exact .inl (heffect.shifts_failed hs)
    | ok actions => exact .inl (heffect.shifts hs)
  | due hallowed heffect => exact heffect.shifts hs

theorem Move.shifts_on (hmove : Move h s none h' s') (hs : s.Sound) (huntaken : Adds Untaken h h') : PadShift s s' :=
  (hmove.shifts hs huntaken).resolve_right fun hrefuses => hrefuses.1 rfl

/-! ## Steps of the pad -/

/-- A worker at rest stays so until it takes a command, though its session may end. -/
theorem Pad.Rests.shifts {pad : Pad m} (hrests : pad.Rests s) (hshift : PadShift s s') :
    ∃ after, (Swbt.pad m r).Drifted pad after ∧ after.Rests s' := by
  obtain ⟨rfl, hfree⟩ := hrests
  have hidle := hfree
  unfold Frame.Engaged at hidle
  rw [not_or, not_or, not_not, not_not, Bool.not_eq_true, Option.isSome_eq_false_iff, Option.isNone_iff_eq_none] at hidle
  obtain ⟨hcommand, htap, hresult⟩ := hidle
  cases hshift with
  | same hpad hflight =>
    refine ⟨s.pad, .refl, hpad, ?_⟩
    unfold Frame.Engaged
    rw [hflight.command, hflight.tap, hflight.result]
    exact hfree
  | connected hpending hpad hgone htap' hresult' =>
    rw [hcommand] at hpending
    cases hpending
  | released hsome hpad hgone htap' hresult' hkind => cases htap.symm.trans hsome
  | ended hpad hgone htap' hpending hcut huncut =>
    refine ⟨s'.pad, ?_, rfl, ?_⟩
    · rw [hpad]
      exact s.pad_drifts
    · unfold Frame.Engaged
      rw [hgone, htap', huncut hcommand htap, hresult]
      simp

/-- A tap that has ended asked for the state it was released to. -/
theorem ReportingCommand.target_of_plan {current : InputState m} {command : ReportingCommand m r} {plan : TapPlan m}
    (hplan : command.tapPlan current = some plan) : command.target current = .ok plan.released := by
  have htap : ∀ {buttons : List (Button m)} {duration : Duration},
      (Swbt.tapPlan current buttons duration).toOption = some plan →
        (CommonCommand.tap buttons duration).target current = .ok plan.released := by
    intro buttons duration hsome
    change (Swbt.tapPlan current buttons duration).map TapPlan.released = _
    cases hresult : Swbt.tapPlan current buttons duration with
    | error error =>
      rw [hresult] at hsome
      cases hsome
    | ok plan' =>
      rw [hresult] at hsome
      cases hsome
      rfl
  cases command with
  | periodic command =>
    cases command with
    | apply candidate => cases hplan
    | common command =>
      cases command with
      | tap buttons duration => exact htap hplan
      | press buttons => cases hplan
      | release buttons => cases hplan
      | neutral => cases hplan
  | direct command =>
    cases command with
    | send candidate => cases hplan
    | common command =>
      cases command with
      | tap buttons duration => exact htap hplan
      | press buttons => cases hplan
      | release buttons => cases hplan
      | neutral => cases hplan

/-- The answer of a tap that comes to its release. -/
theorem Pad.answers_released {pad : Pad m} {command : ReportingCommand m r} {plan : TapPlan m}
    {firstError : Option TransportError} {result : TransportResult Unit} (hready : pad.ready = true)
    (hplan : command.tapPlan pad.input = some plan)
    (hfirst : ∀ error, firstError = some error → r = .periodic ∧ error.kind = .sendRejected)
    (hkind : ∀ error, result = .error error → error.kind = .sendRejected) :
    pad.Answers (.input command) (releaseOutcome r firstError result)
      ⟨true, inputAfter r plan.pressed plan.released result⟩ := by
  have hdone : pad.Answers (.input command) (.ok ()) ⟨true, plan.released⟩ := by
    rw [← hready]
    exact .done (ReportingCommand.target_of_plan hplan) fun _ => hready
  cases r with
  | direct =>
    rcases result with error | ⟨⟩
    · exact .unreleased rfl hready hplan (hkind error rfl)
    · exact hdone
  | periodic =>
    rcases firstError with _ | first
    · rcases result with error | ⟨⟩
      · exact .unheard rfl hready hplan (hkind error rfl)
      · exact hdone
    · exact .unheard rfl hready hplan (hfirst first rfl).2

/-- A command in flight stays so, or is answered as the pad answers it. -/
theorem Pad.Serves.shifts {pad : Pad m} {command : RuntimeCommand m r} (hserves : pad.Serves command s) (hs : s.Sound)
    (hshift : PadShift s s') : pad.Serves command s' := by
  -- A command in flight rules out the shifts that answer another kind of command.
  cases hserves with
  | connecting hopen hcommand hnew =>
    have hpending : s.connectionCommandPending.isSome = true := by
      rw [hcommand]
      rfl
    obtain ⟨work, -, hconnecting⟩ := hs.coherent.of_command hpending
    cases hshift with
    | same hpad hflight => exact .connecting hopen (hflight.command.trans hcommand) (hpad.trans hnew)
    | connected _ hpad hgone htap hresult =>
      refine .answered hresult hgone htap (.connected hopen) ?_
      rw [hpad, hconnecting.neutral]
    | ended hpad hgone htap hanswered hcut huncut =>
      obtain ⟨error, hresult⟩ := hanswered _ hcommand
      refine .answered hresult hgone htap (.unconnected hopen) ?_
      rw [hpad, hconnecting.neutral]
    | released htap hpad hgone htap' hresult hkind => cases hconnecting.tap.symm.trans htap
  | tapping hready hplan htap hreleased hinput hfirst =>
    obtain ⟨hidle, hstate, -⟩ := hs.idle_of_tap htap
    cases hshift with
    | same hpad hflight =>
      exact .tapping hready hplan (hflight.tap.trans htap) hreleased (hflight.input.trans hinput) hfirst
    | connected hpending hpad hgone htap' hresult =>
      rw [hidle] at hpending
      cases hpending
    | ended hpad hgone htap' hanswered hcut huncut =>
      obtain ⟨reason, hresult⟩ := hcut (by rw [htap]; exact Option.some_ne_none _)
      refine .answered hresult hgone htap' (.cut hready hplan) ?_
      rw [hpad, hinput]
    | released htap' hpad hgone hnone hresult hkind =>
      cases htap.symm.trans htap'
      refine .answered hresult hgone hnone (Pad.answers_released hready hplan hfirst hkind) ?_
      rw [hpad, hinput, hreleased, show s.pad.ready = true from decide_eq_true hstate]
  | answered hresult hcommand htap hanswers hdrifted =>
    cases hshift with
    | same hpad hflight =>
      refine .answered (hflight.result.trans hresult) (hflight.command.trans hcommand) (hflight.tap.trans htap) hanswers ?_
      rw [hpad]
      exact hdrifted
    | connected hpending hpad hgone htap' hresult' =>
      rw [hcommand] at hpending
      cases hpending
    | ended hpad hgone htap' hpending hcut huncut =>
      refine .answered ((huncut hcommand htap).trans hresult) hgone htap' hanswers (hdrifted.trans ?_)
      rw [hpad]
      exact s.pad_drifts
    | released hsome hpad hgone htap' hresult' hkind => cases htap.symm.trans hsome

end Swbt
