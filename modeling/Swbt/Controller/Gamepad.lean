import Swbt.Controller.Calls
import Swbt.Runtime.Pad
/-!
# The gamepad

What a controller is to its caller: closed, or a pad that may fail at any
time. A failed gamepad has to be closed before it can be opened again.
-/

set_option autoImplicit false

open Effects

namespace Swbt

variable {m : ControllerKind} {r : ReportingKind}

def WorkerThreadOutcome.hasFailed : WorkerThreadOutcome → Bool
  | .closed _ _ => false
  | .failed _ _ _ _ => true

inductive Gamepad (m : ControllerKind)
  | closed
  | failed
  | live (pad : Pad m)

namespace Gamepad

def isOpen : Gamepad m → Bool
  | .closed => false
  | .failed | .live _ => true

/-- An open gamepad does as its pad, and it may fail. -/
inductive Drifts : Gamepad m → Gamepad m → Prop
  | pad {pad pad' : Pad m} (hdrifts : pad.Drifts pad') : Drifts (.live pad) (.live pad')
  | failed {pad : Pad m} : Drifts (.live pad) .failed

/-! ## The runtime -/

inductive Opens : Gamepad m → Except ErrorChain Unit → Gamepad m → Prop
  | unopened {error : ErrorChain} : Opens .closed (.error error) .closed
  | opened : Opens .closed (.ok ()) (.live .new)

inductive Exchanges : Gamepad m → RuntimeCommand m r → Exchanged → Gamepad m → Prop
  | answered {pad pad' : Pad m} {command : RuntimeCommand m r} {result : CommandResult}
      (hanswers : pad.Answers command result pad') : Exchanges (.live pad) command (.ok (.ok result)) (.live pad')
  | unheard {command : RuntimeCommand m r} {answer : Exchanged} (hfailed : answer ≠ .ok (.ok (.ok ()))) :
      Exchanges .failed command answer .failed

/-- A failed worker tells so when it is finished. -/
inductive Finishes : Gamepad m → WorkerThreadOutcome → Gamepad m → Prop
  | closed {pad : Pad m} {outcome : WorkerThreadOutcome} : Finishes (.live pad) outcome .closed
  | buried {outcome : WorkerThreadOutcome} (hfailed : outcome.hasFailed = true) : Finishes .failed outcome .closed

/-- How the runtime of a gamepad answers. -/
def hosts (x : Gamepad m) : (op : RuntimeOp m r) → op.Ans → Gamepad m → Prop
  | .openRuntime, answer, y => Opens x answer y
  | .exchange command, answer, y => Exchanges x command answer y
  | .finishExplicit _, outcome, y => Finishes x outcome y

variable (m r) in
def host : Resident (RuntimeCalls m r) (Gamepad m) := ⟨hosts, Drifts⟩

/-! ## The calls -/

/-- A command and what its caller is told. -/
inductive Sends : Gamepad m → RuntimeCommand m r → Except ErrorChain Unit → Gamepad m → Prop
  | answered {pad pad' : Pad m} {command : RuntimeCommand m r} {result : CommandResult}
      (hanswers : pad.Answers command result pad') :
      Sends (.live pad) command (Exchanged.told (.ok (.ok result))) (.live pad')
  | failed {command : RuntimeCommand m r} {error : ErrorChain} : Sends .failed command (.error error) .failed

end Gamepad

/-- The command of a call that comes to one command. -/
def Call.command : Call m r → Option (RuntimeCommand m r)
  | .pair timeout => some (.pair timeout)
  | .reconnect timeout => some (.reconnect timeout)
  | .common command => some (.input (.common r command))
  | .input command => some (.input command)
  | .open | .connect _ | .close _ => none

/-- The timeout of such a command is in range, if it has one. -/
def RuntimeCommand.Fits : RuntimeCommand m r → Prop
  | .pair timeout | .reconnect timeout => fitsProtocolTimestamp timeout = true
  | .input _ => True

namespace Gamepad

/-- The answers to a call, and the gamepad after them. -/
inductive Answers : Gamepad m → Call m r → CallResult → Gamepad m → Prop
  | unopened {error : ErrorChain} : Answers .closed .open (.error error) .closed
  | opened : Answers .closed .open (.ok none) (.live .new)
  | stillOpen {x : Gamepad m} (hopen : x.isOpen = true) : Answers x .open (.ok none) x
  | notOpen {call : Call m r} (hcommand : call.command ≠ none) :
      Answers .closed call (.error (.single notOpenError)) .closed
  | outOfRange {x : Gamepad m} {call : Call m r} {command : RuntimeCommand m r} (hopen : x.isOpen = true)
      (hcommand : call.command = some command) (hfits : ¬ command.Fits) :
      Answers x call (.error (.single connectionTimeoutError)) x
  | sent {x y : Gamepad m} {call : Call m r} {command : RuntimeCommand m r} {result : Except ErrorChain Unit}
      (hcommand : call.command = some command) (hfits : command.Fits) (hsends : Sends x command result y) :
      Answers x call (.done result) y
  | reconnected {x y : Gamepad m} {timeout : Duration} {allowPairing : Bool}
      (hreconnect : Answers x (.reconnect timeout) (.ok none) y) :
      Answers x (.connect ⟨timeout, allowPairing⟩) (.ok (some .reconnected)) y
  | unconnected {x y : Gamepad m} {timeout : Duration} {allowPairing : Bool} {error : ErrorChain}
      (hreconnect : Answers x (.reconnect timeout) (.error error) y)
      (hkept : ¬ (error.kind = .noBond ∧ allowPairing = true)) :
      Answers x (.connect ⟨timeout, allowPairing⟩) (.error error) y
  | paired {x y y' z : Gamepad m} {timeout : Duration} {error : ErrorChain} {result : Except ErrorChain Unit}
      (hreconnect : Answers x (.reconnect timeout) (.error error) y) (hbond : error.kind = .noBond)
      (hdrifted : Relation.ReflTransGen Drifts y y') (hpair : Answers y' (.pair timeout) (.done result) z) :
      Answers x (.connect ⟨timeout, true⟩) (result.map fun _ => some .paired) z
  | closed {pad : Pad m} {mode : CloseMode} {result : Except ErrorChain Unit} :
      Answers (.live pad) (.close mode) (.done result) .closed
  | buried {mode : CloseMode} {error : ErrorChain} : Answers .failed (.close mode) (.error error) .closed
  | stillClosed {mode : CloseMode} : Answers .closed (.close mode) (.ok none) .closed

end Gamepad

variable (m r) in
/-- The gamepad as a sequential object. -/
def gamepad : Sequential (Gamepad m) (Call m r) CallResult := ⟨Gamepad.Answers, Gamepad.Drifts⟩

/-! ## The calls of a controller over a gamepad -/

namespace Gamepad

variable {x y : Gamepad m} {call : Call m r} {controller : Controller}

theorem Drifts.isOpen (hdrifts : Drifts x y) : x.isOpen = true ∧ y.isOpen = true := by
  cases hdrifts with
  | pad hdrifts => exact ⟨rfl, rfl⟩
  | failed => exact ⟨rfl, rfl⟩

theorem drifted_isOpen (hdrifted : (host m r).Drifted x y) : y.isOpen = x.isOpen := by
  induction hdrifted with
  | refl => rfl
  | tail _ hdrifts ih => exact hdrifts.isOpen.2.trans (hdrifts.isOpen.1.symm.trans ih)

/-- A closed gamepad stays closed by itself. -/
theorem drifted_closed (hdrifted : (host m r).Drifted .closed y) : y = .closed := by
  induction hdrifted with
  | refl => rfl
  | tail _ hdrifts ih =>
    subst ih
    cases hdrifts

theorem eq_closed (hclosed : x.isOpen = false) : x = .closed := by
  cases x with
  | closed => rfl
  | failed => cases hclosed
  | live pad => cases hclosed

/-- What a call promises when it is made of a controller over this gamepad. -/
abbrev Promised (x : Gamepad m) (call : Call m r) (controller : Controller) (result : CallResult) (z : Gamepad m) :
    Prop :=
  controller.runtime = z.isOpen ∧ ∃ y, (host m r).Drifted x y ∧ y.Answers call result z

theorem Promised.answers {result : CallResult} (hopen : controller.runtime = y.isOpen)
    (hanswers : x.Answers call result y) :
    Promised x call controller result y := ⟨hopen, x, .refl, hanswers⟩

section Runtime

variable (s : Controller) (x : Gamepad m)

theorem openRuntime_facing (Q : Controller → Except ErrorChain Unit → Gamepad m → Prop) :
    Act.facing (host m r) ControllerRuntime.openRuntime s x Q ↔
      ∀ y answer z, (host m r).Drifted x y → y.Opens answer z → Q s answer z := Act.facing_perform _ _ _ _

theorem exchange_facing (command : RuntimeCommand m r) (Q : Controller → Exchanged → Gamepad m → Prop) :
    Act.facing (host m r) (ControllerRuntime.exchange command) s x Q ↔
      ∀ y answer z, (host m r).Drifted x y → y.Exchanges command answer z → Q s answer z := Act.facing_perform _ _ _ _

theorem finishExplicit_facing (mode : CloseMode) (Q : Controller → WorkerThreadOutcome → Gamepad m → Prop) :
    Act.facing (host m r) (ControllerRuntime.finishExplicit mode) s x Q ↔
      ∀ y outcome z, (host m r).Drifted x y → y.Finishes outcome z → Q s outcome z := Act.facing_perform _ _ _ _

end Runtime

theorem send_facing (command : RuntimeCommand m r) (controller : Controller) (x : Gamepad m) :
    Act.facing (host m r) (ControllerRuntime.send command) controller x fun controller' result z =>
      controller' = controller ∧ ∃ y, (host m r).Drifted x y ∧ y.Sends command result z := by
  unfold ControllerRuntime.send
  rw [Act.facing_map, exchange_facing]
  intro y answer z hdrifted hanswers
  refine ⟨rfl, y, hdrifted, ?_⟩
  cases hanswers with
  | answered hanswers => exact .answered hanswers
  | unheard hfailed =>
    obtain ⟨error, htold⟩ := Exchanged.told_error hfailed
    rw [htold]
    exact .failed

/-- A call that sends one command. -/
theorem command_facing (command : RuntimeCommand m r) {runtime : Calling m r (Except ErrorChain Unit)}
    (hcommand : call.command = some command) (hopen : controller.runtime = x.isOpen)
    (hfits : command.Fits → runtime = ControllerRuntime.send command)
    (hunfit : ¬ command.Fits → runtime = pure (.error (.single connectionTimeoutError))) :
    Act.facing (host m r) (Controller.runtimeMut runtime) controller x fun controller' result z =>
      Promised x call controller' (.done result) z := by
  unfold Controller.runtimeMut
  rw [Act.facing_bind, Act.facing_get]
  split
  · rename_i hruntime
    by_cases hin : command.Fits
    · rw [hfits hin]
      refine Act.facing_mono (send_facing command controller x) ?_
      rintro controller' result z ⟨rfl, y, hdrifted, hsends⟩
      refine ⟨?_, y, hdrifted, .sent hcommand hin hsends⟩
      rw [hopen, ← drifted_isOpen hdrifted]
      cases hsends with
      | answered hanswers => rfl
      | failed => rfl
    · rw [hunfit hin, Act.facing_pure]
      exact .answers hopen (.outOfRange (hopen.symm.trans hruntime) hcommand hin)
  · rename_i hruntime
    obtain rfl := eq_closed (hopen.symm.trans (Bool.eq_false_of_not_eq_true hruntime))
    rw [Act.facing_pure]
    refine .answers hopen (.notOpen ?_)
    rw [hcommand]
    exact Option.some_ne_none _

theorem pair_facing (timeout : Duration) (hopen : controller.runtime = x.isOpen) :
    Act.facing (host m r) (Controller.pair timeout) controller x fun controller' result z =>
      Promised x (.pair timeout : Call m r) controller' (.done result) z :=
  command_facing (.pair timeout) rfl hopen (fun hfits => if_pos hfits) fun hunfit => if_neg hunfit

theorem reconnect_facing (timeout : Duration) (hopen : controller.runtime = x.isOpen) :
    Act.facing (host m r) (Controller.reconnect timeout) controller x fun controller' result z =>
      Promised x (.reconnect timeout : Call m r) controller' (.done result) z :=
  command_facing (.reconnect timeout) rfl hopen (fun hfits => if_pos hfits) fun hunfit => if_neg hunfit

theorem request_facing (command : ReportingCommand m r) (hcommand : call.command = some (.input command))
    (hopen : controller.runtime = x.isOpen) :
    Act.facing (host m r) (Controller.request command) controller x fun controller' result z =>
      Promised x call controller' (.done result) z :=
  command_facing _ hcommand hopen (fun _ => rfl) fun hunfit => absurd trivial hunfit

theorem connect_facing (options : ConnectOptions) (hopen : controller.runtime = x.isOpen) :
    Act.facing (host m r) (Controller.connect options) controller x fun controller' result z =>
      Promised x (.connect options : Call m r) controller' (result.map some) z := by
  obtain ⟨timeout, allowPairing⟩ := options
  unfold Controller.connect
  rw [Act.facing_bind]
  refine Act.facing_mono (reconnect_facing timeout hopen) ?_
  rintro controller₁ result₁ y₁ ⟨hopen₁, y, hdrifted, hreconnect⟩
  cases result₁ with
  | ok =>
    rw [Act.facing_pure]
    exact ⟨hopen₁, y, hdrifted, .reconnected hreconnect⟩
  | error error =>
    dsimp only
    split
    · rename_i hbond
      -- The pairing finds the gamepad as the reconnect has left it, or as it has drifted since.
      obtain ⟨hkind, rfl⟩ := hbond
      rw [Act.facing_bind]
      refine Act.facing_mono (pair_facing timeout hopen₁) ?_
      rintro controller₂ result₂ y₂ ⟨hopen₂, y', hdrifted', hpair⟩
      have hpaired := Answers.paired hreconnect hkind hdrifted' hpair
      cases result₂ with
      | error error => exact ⟨hopen₂, y, hdrifted, hpaired⟩
      | ok => exact ⟨hopen₂, y, hdrifted, hpaired⟩
    · rename_i hkept
      rw [Act.facing_pure]
      exact ⟨hopen₁, y, hdrifted, .unconnected hreconnect hkept⟩

theorem open_facing (hopen : controller.runtime = x.isOpen) :
    Act.facing (host m r) Controller.openWith controller x fun controller' result z =>
      Promised x (.open : Call m r) controller' (.done result) z := by
  unfold Controller.openWith
  rw [Act.facing_bind, Act.facing_get]
  split
  · rename_i hruntime
    exact .answers hopen (.stillOpen (hopen.symm.trans hruntime))
  · rename_i hruntime
    obtain rfl := eq_closed (hopen.symm.trans (Bool.eq_false_of_not_eq_true hruntime))
    rw [Act.facing_bind, openRuntime_facing]
    intro y answer z hdrifted hanswers
    obtain rfl := drifted_closed hdrifted
    cases hanswers with
    | unopened => exact .answers hopen .unopened
    | opened => exact .answers rfl .opened

theorem close_facing (mode : CloseMode) (hopen : controller.runtime = x.isOpen) :
    Act.facing (host m r) (Controller.closeWithMode mode) controller x fun controller' result z =>
      Promised x (.close mode : Call m r) controller' (.done result) z := by
  unfold Controller.closeWithMode
  rw [Act.facing_bind, Act.facing_get]
  split
  · unfold ControllerRuntime.close
    rw [Act.facing_bind, Act.facing_modify, Act.facing_map, finishExplicit_facing]
    intro y outcome z hdrifted hanswers
    cases hanswers with
    | closed => exact ⟨rfl, _, hdrifted, .closed⟩
    | buried hfailed =>
      cases outcome with
      | closed result deliveryError => cases hfailed
      | failed cause deliveryError cleanupError joinError => exact ⟨rfl, _, hdrifted, .buried⟩
  · rename_i hruntime
    obtain rfl := eq_closed (hopen.symm.trans (Bool.eq_false_of_not_eq_true hruntime))
    rw [Act.facing_bind]
    exact (Act.facing_emit _ _ _ _).2 (.answers hopen .stillClosed)

/-- Every call does as it does of a gamepad. -/
theorem call_facing (call : Call m r) (hopen : controller.runtime = x.isOpen) :
    Act.facing (host m r) call.run controller x (Promised x call) := by
  cases call with
  | «open» => exact (Act.facing_map _ _ _ _ _).2 (open_facing hopen)
  | pair timeout => exact (Act.facing_map _ _ _ _ _).2 (pair_facing timeout hopen)
  | reconnect timeout => exact (Act.facing_map _ _ _ _ _).2 (reconnect_facing timeout hopen)
  | connect options => exact (Act.facing_map _ _ _ _ _).2 (connect_facing options hopen)
  | common command => exact (Act.facing_map _ _ _ _ _).2 (request_facing _ rfl hopen)
  | input command => exact (Act.facing_map _ _ _ _ _).2 (request_facing _ rfl hopen)
  | close mode => exact (Act.facing_map _ _ _ _ _).2 (close_facing mode hopen)

/-- Calls of a controller that has lived with a gamepad are answered as the gamepad answers them. -/
theorem used_plays {calls : List (Call m r × CallResult)} {h : History (RuntimeCalls m r) Controller}
    (hused : Used calls h controller) (hlives : (host m r).Lives .closed h x) :
    (gamepad m r).Plays .closed calls x ∧ controller.runtime = x.isOpen := by
  induction hused generalizing x with
  | built =>
    cases hlives
    exact ⟨.start, rfl⟩
  | called hused hexec ih =>
    rename_i call result
    obtain ⟨y, hbefore, hend⟩ := hexec.facing hlives
    obtain ⟨hplays, hopen⟩ := ih hbefore
    obtain ⟨hruntime, z, hdrifted, hanswers⟩ := hend _ (call_facing call hopen)
    exact ⟨.answered (.drifted hplays hdrifted) hanswers, hruntime⟩

end Gamepad

end Swbt
