import Swbt.Runtime.Ends
import Swbt.Runtime.Following
/-!
# The last answers of a worker

A worker that ends leaves its clients with the answers it has given by then.
They are the pad's, except that the last may be the error the worker failed
with and that a command in flight may stay without an answer.
-/

set_option autoImplicit false

open Effects

namespace Swbt

variable {m : ControllerKind} {r : ReportingKind} {h h' : Log m r} {s s' : Frame m r} {results : List CommandResult}
variable {receiver receiver' : CommandReceiver} {sent : List Response}

/-- A client that asks for a shutdown only by closing, once every command it has sent is answered. -/
def Leased (closing : Option CloseMode) (sent : List Response) (h h' : Log m r) : Prop :=
  ∀ f request h₀, .call f Op.takeShutdown (some request) :: h₀ <:+ h' → h <:+ h₀ →
    closing.map ShutdownRequest.explicit = some request ∧ h'.commands.length = sent.length

/-- How the answers given by the end, the latest first, stand to those of the pad. -/
inductive LastAnswers (h : Log m r) : List CommandResult → Prop
  | answered {results : List CommandResult} {x : Pad m} (hlength : h.commands.length = results.length)
      (hplays : (pad m r).Plays Pad.new (h.commands.zip results) x) : LastAnswers h results
  | refused {command : RuntimeCommand m r} {rest : List (RuntimeCommand m r)} {error : WorkerCommandError}
      {results : List CommandResult} {x : Pad m} (hcommands : h.commands = command :: rest)
      (hlength : rest.length = results.length) (hplays : (pad m r).Plays Pad.new (rest.zip results) x) :
      LastAnswers h (.error error :: results)
  | lost {command : RuntimeCommand m r} {rest : List (RuntimeCommand m r)} {results : List CommandResult} {x : Pad m}
      (hcommands : h.commands = command :: rest) (hlength : rest.length = results.length)
      (hplays : (pad m r).Plays Pad.new (rest.zip results) x) : LastAnswers h results

theorem LastAnswers.congr (hlast : LastAnswers h results) (hsame : h'.commands = h.commands) :
    LastAnswers h' results := by
  cases hlast with
  | answered hlength hplays =>
    rw [← hsame] at hlength hplays
    exact .answered hlength hplays
  | refused hcommands hlength hplays => exact .refused (hsame.trans hcommands) hlength hplays
  | lost hcommands hlength hplays => exact .lost (hsame.trans hcommands) hlength hplays

theorem length_results (sent : List Response) : (sent.map Response.result).reverse.length = sent.length := by
  rw [List.length_reverse, List.length_map]

/-! ## Workers between two steps -/

/-- With every command answered, all the answers are the pad's. -/
theorem Log.Follows.played (hfollows : h.Follows results s) (hlength : h.commands.length = results.length) :
    (pad m r).Plays Pad.new (h.commands.zip results) s.pad := by
  unfold Log.Follows at hfollows
  generalize h.commands = ops at hfollows hlength ⊢
  cases hfollows with
  | rests _ hplays hrests =>
    obtain ⟨rfl, -⟩ := hrests
    exact hplays
  | serves hbefore _ _ =>
    rw [List.length_cons, hbefore] at hlength
    exact absurd hlength (Nat.succ_ne_self _)

/-- With a command in flight, all the answers before it are. -/
theorem Log.Follows.serving (hfollows : h.Follows results s) (hlength : h.commands.length = results.length + 1) :
    ∃ command rest x, h.commands = command :: rest ∧ rest.length = results.length ∧
      (pad m r).Plays Pad.new (rest.zip results) x := by
  unfold Log.Follows at hfollows
  generalize h.commands = ops at hfollows hlength ⊢
  cases hfollows with
  | rests hsame _ _ => exact absurd (hlength.symm.trans hsame) (Nat.succ_ne_self _)
  | serves hbefore hplays _ => exact ⟨_, _, _, rfl, hbefore, hplays⟩

theorem Log.Follows.lasts (hfollows : h.Follows results s) : LastAnswers h results := by
  unfold Log.Follows at hfollows
  generalize hops : h.commands = ops at hfollows
  cases hfollows with
  | rests hlength hplays _ =>
    rw [← hops] at hlength hplays
    exact .answered hlength hplays
  | serves hlength hplays _ => exact .lost hops hlength hplays

theorem Owes.free (howes : Owes h s receiver sent) (hnone : receiver.inFlight = none) :
    h.commands.length = sent.length := by
  by_cases hengaged : s.Engaged
  · exact absurd ((howes.busy hengaged).1.symm.trans hnone) (Option.some_ne_none _)
  · exact (howes.idle hengaged).2

/-- A receiver takes a command only with none in flight. -/
theorem CommandReceiver.tryNext_free {channel channel' : Option (CommandRequest m r)} {command : RuntimeCommand m r}
    (hnext : receiver.tryNext channel = (some command, receiver', channel')) : receiver.inFlight = none := by
  cases hflight : receiver.inFlight with
  | none => rfl
  | some number =>
    unfold CommandReceiver.tryNext at hnext
    rw [hflight] at hnext
    cases hnext

/-! ## Last steps -/

/-- A step that ends the worker without an answer. -/
theorem Fetched.lasts (hfetched : Fetched h h' receiver receiver') (hfollows : h.Follows results s)
    (hfree : receiver.inFlight = Option.none → h.commands.length = results.length) : LastAnswers h' results := by
  cases hfetched with
  | none hsame => exact hfollows.lasts.congr hsame
  | one hnumber hnext htaken =>
    have hlength := hfree (CommandReceiver.tryNext_free hnext)
    exact .lost htaken hlength (hfollows.played hlength)

/-- A step that ends the worker and answers its command with an error. -/
theorem Fetched.refuses (hfetched : Fetched h h' receiver receiver') (hfollows : h.Follows results s)
    (hfree : receiver.inFlight = Option.none → h.commands.length = results.length)
    (hlength : h'.commands.length = results.length + 1) (error : WorkerCommandError) :
    LastAnswers h' (.error error :: results) := by
  cases hfetched with
  | none hsame =>
    rw [hsame] at hlength
    obtain ⟨command, rest, x, hcommands, hrest, hplays⟩ := hfollows.serving hlength
    exact .refused (hsame.trans hcommands) hrest hplays
  | one hnumber hnext htaken =>
    have hlength := hfree (CommandReceiver.tryNext_free hnext)
    exact .refused htaken hlength (hfollows.played hlength)

/-- A step that ends the worker with every command answered. -/
theorem Fetched.plays (hfetched : Fetched h h' receiver receiver') (hfollows : h.Follows results s)
    (hfree : receiver.inFlight = Option.none → h.commands.length = results.length)
    (hlength : h'.commands.length = results.length) : (pad m r).Plays Pad.new (h'.commands.zip results) s.pad := by
  cases hfetched with
  | none hsame =>
    rw [hsame] at hlength ⊢
    exact hfollows.played hlength
  | one hnumber hnext htaken =>
    have hbefore := hfree (CommandReceiver.tryNext_free hnext)
    rw [htaken, List.length_cons, hbefore] at hlength
    exact absurd hlength (Nat.succ_ne_self _)

/-! ## Ends -/

theorem completeWorkerFailure_commands {cause : WorkerFailureCause} {failure : Option CleanupFailure}
    (hexec : Prog.Exec (completeWorkerFailure cause s) h h' s' failure) : h'.commands = h.commands :=
  Adds.commands (Adds.untaken (hexec.post (completeWorkerFailure_spec _ _ _)).plain)

/-- A cleanup that panics has taken no command either. -/
theorem abandoned_commands {cause : WorkerFailureCause} (habort : Prog.Abort (completeWorkerFailure cause s) h h' s') :
    h'.commands = h.commands := by
  obtain ⟨h'', s'', failure, hexec, hsuffix⟩ := habort.extends (scripted .ZERO (fun _ => none) fun _ => [])
  have hadds := Adds.untaken (hexec.post (completeWorkerFailure_spec _ _ _)).plain
  exact Adds.commands (Adds.parts hadds habort.suffix hsuffix).1

variable {owner : List Response → Log m r → Log m r → Prop}

theorem Serving.free (hserving : Serving owner h s receiver sent) (hnone : receiver.inFlight = none) :
    h.commands.length = (sent.map Response.result).reverse.length := by
  rw [length_results]
  exact hserving.owes.free hnone

theorem Broken.lasts {cause : WorkerFailureCause} {delivery : Option CommandDeliveryError}
    (hbroken : Broken owner h s receiver sent cause delivery) : LastAnswers h (sent.map Response.result).reverse := by
  cases hbroken with
  | failed hserving hexec howner hfetched hdelivered =>
    rename_i h₀ s₀ error progress receiver₀ receiver₁ sent₀ more outcome
    have hrun := hserving.run
    obtain ⟨howes, hunanswered, hprogress⟩ := hfetched.failed hserving.owes hrun hexec
    obtain ⟨-, -, hmore⟩ := howes.deliver hunanswered hprogress hdelivered
    rw [List.map_append, hmore, List.reverse_append, reverse_toList]
    cases hresult : progress.commandResult with
    | none => exact hfetched.lasts hserving.follows hserving.free
    | some result =>
      cases result with
      | ok =>
        -- A command done in a step that fails after it is a command of the pad like any other.
        have hstep := hexec.post (stepRuntime_follows hrun.coherent hserving.follows)
        obtain ⟨s₁, hfollows⟩ := hstep.fails _ _ rfl hresult
        exact hfollows.lasts
      | error error =>
        have hengaged : s.Engaged := by
          refine .inr (.inr ?_)
          rw [← hprogress, hresult]
          exact Option.some_ne_none _
        refine hfetched.refuses hserving.follows hserving.free ?_ error
        rw [length_results]
        exact (howes.busy hengaged).2
  | undelivered hserving hexec howner hfetched hdelivered =>
    obtain ⟨howes, hunanswered, hprogress⟩ := hfetched.continued hserving.owes hserving.run hexec
    cases (howes.deliver hunanswered hprogress hdelivered).1
  | unwaited hserving hturn => exact (Serving.turn hserving hturn).follows.lasts

theorem LoopPanic.lasts {broken : Option (WorkerFailureCause × Option CommandDeliveryError)}
    (hpanic : LoopPanic owner h s receiver sent broken) : LastAnswers h (sent.map Response.result).reverse := by
  cases hpanic with
  | stepping hserving habort howner hfetched => exact hfetched.lasts hserving.follows hserving.free
  | waiting hserving hturn => exact (Serving.turn hserving hturn).follows.lasts
  | cleaning hbroken habort => exact hbroken.lasts.congr (abandoned_commands habort)

/-- How a worker leaves its client: failed, with its last answers, or closed as it was asked to, with all of them. -/
inductive Leaves (closing : Option CloseMode) (h : Log m r) (results : List CommandResult) : WorkerTerminal → Prop
  | failed {cause : WorkerFailureCause} {cleanupError : Option CleanupFailure} (hlasts : LastAnswers h results) :
      Leaves closing h results (.failed cause cleanupError)
  | closed {x : Pad m} {completion : CloseCompletion} (hasked : closing ≠ none)
      (hplays : (pad m r).Plays Pad.new (h.commands.zip results) x) : Leaves closing h results (.closed completion)

variable {closing : Option CloseMode} {completion : WorkerCompletion}

theorem LoopEnd.leaves (hend : LoopEnd (Leased closing) h receiver sent completion) :
    Leaves closing h (sent.map Response.result).reverse completion.terminal := by
  cases hend with
  | closed hserving hexec hleased hfetched hdelivered =>
    rename_i h₀ s₀ s' completion interrupted progress receiver₀ receiver₁ sent₀ more delivery
    have hrun := hserving.run
    obtain ⟨h₁, s₁, h₂, s₂, request, t, hpath, hsound₁, hlast, hsound, hclose⟩ :=
      (hexec.post (stepRuntime_spec _ _ hrun.coherent)).of_closed
    have hasked : .call s₂ Op.takeShutdown (some request) :: h₂ <:+ h :=
      (List.suffix_cons _ _).trans hclose.plain.suffix
    obtain ⟨hrequest, hlength⟩ := hleased _ _ _ hasked (hpath.suffix.trans hlast.suffix)
    -- Nothing was in flight, so the close has nothing to deliver.
    have howes := hfetched.owes_last hserving.owes hpath hsound₁ hlast hclose.untaken
    obtain ⟨rfl, hprogress⟩ := hclose.delivers
    obtain ⟨-, -, -, hcount, -⟩ := howes.deliverClosed hsound hprogress hdelivered
    rw [hlength, List.length_append, Nat.left_eq_add, List.length_eq_zero_iff] at hcount
    subst hcount
    rw [List.append_nil]
    refine .closed ?_ (hfetched.plays hserving.follows hserving.free ?_)
    · rintro rfl
      cases hrequest
    · rw [hlength, length_results]
  | failed hbroken hexec => exact .failed (hbroken.lasts.congr (completeWorkerFailure_commands hexec))

theorem Caught.leaves {caught : Option (Option (WorkerFailureCause × Option CommandDeliveryError))}
    (hcaught : Caught (Leased closing) h receiver sent caught completion) :
    Leaves closing h (sent.map Response.result).reverse completion.terminal := by
  cases hcaught with
  | ended hend => exact hend.leaves
  | panicked hpanic hexec => exact .failed (hpanic.lasts.congr (completeWorkerFailure_commands hexec))
  | panickedAgain hpanic habort => exact .failed (hpanic.lasts.congr (abandoned_commands habort))

end Swbt
