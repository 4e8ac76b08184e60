import Swbt.Controller.Creation
import Swbt.Controller.Gamepad
import Swbt.Runtime.LastAnswers
/-!
# Controllers are gamepads

The runtime of a controller is a worker of its own. Whatever its calls have
made of such workers, one after the other, they are answered as by a gamepad.
-/

set_option autoImplicit false

open Effects

namespace Swbt

variable {m : ControllerKind} {r : ReportingKind}

/-- Where a controller keeps its worker: between two steps with nothing in flight, or ended with this outcome. -/
inductive Quarters (m : ControllerKind) (r : ReportingKind)
  | vacant
  | serving (s : Frame m r)
  | ended (outcome : WorkerThreadOutcome)

/-- The gamepad that the worker is. -/
def Quarters.gamepad : Quarters m r → Gamepad m
  | .vacant => .closed
  | .serving s => .live s.pad
  | .ended _ => .failed

/-- The exchanges of a runtime. -/
def exchangeEvents (asked : List (RuntimeCommand m r × Exchanged)) : History (RuntimeCalls m r) Controller :=
  asked.map fun exchange => .call ⟨true⟩ (.exchange exchange.1) exchange.2

/-- Exchanges with an answer. -/
def heardExchanges (played : List (RuntimeCommand m r × CommandResult)) : List (RuntimeCommand m r × Exchanged) :=
  played.map fun exchange => (exchange.1, .ok (.ok exchange.2))

/-- The runtime opens, and these exchanges follow. -/
def session (asked : List (RuntimeCommand m r × Exchanged)) (H : History (RuntimeCalls m r) Controller) :
    History (RuntimeCalls m r) Controller := exchangeEvents asked ++ .call ⟨false⟩ .openRuntime (.ok ()) :: H

/-- What a client hears of a command that an ended worker has left without an answer: nobody receives commands, or the
response channel is gone. -/
def Unheard (answer : Exchanged) : Prop := answer = .error .disconnected ∨ answer = .ok (.error .workerFailed)

/-- The histories of a runtime, which starts one worker after the other and asks one thing at a time of each. The
worker a history has come to may still serve, and when it has ended by itself, it may not have been heard to. -/
inductive Housed : Quarters m r → History (RuntimeCalls m r) Controller → Prop
  | built : Housed .vacant []
  | noted {controller : Controller} {status : StatusCall m} {H : History (RuntimeCalls m r) Controller}
      (hhoused : Housed .vacant H) : Housed .vacant (.emit controller status :: H)
  | unopened {error : OpenError} {H : History (RuntimeCalls m r) Controller} (hhoused : Housed .vacant H) :
      Housed .vacant (.call ⟨false⟩ .openRuntime (.error (openRuntimeOwner error)) :: H)
  | serving {H : History (RuntimeCalls m r) Controller} {h : Log m r} {s : Frame m r} {receiver : CommandReceiver}
      {sent : List Response} (hhoused : Housed .vacant H) (hserving : Serving (Leased none) h s receiver sent)
      (hfree : receiver.inFlight = none) :
      Housed (.serving s) (session (heardExchanges (h.commands.zip (sent.map Response.result).reverse)) H)
  | ended {H : History (RuntimeCalls m r) Controller} {h : Log m r} {receiver : CommandReceiver} {sent : List Response}
      {ending : ThreadEnd} {heard : List (RuntimeCommand m r)} {lost : List (RuntimeCommand m r × Exchanged)}
      (hhoused : Housed .vacant H) (hcaught : Caught (Leased none) h receiver sent ending.caught ending.completion)
      (hheard : heard <:+ h.commands) (hanswered : heard.length = sent.length)
      (hlost : ∀ exchange ∈ lost, Unheard exchange.2) :
      Housed (.ended ending.outcome) (session (lost ++ heardExchanges (heard.zip (sent.map Response.result).reverse)) H)
  | closed {H : History (RuntimeCalls m r) Controller} {h : Log m r} {receiver : CommandReceiver} {sent : List Response}
      {ending : ThreadEnd} {mode : CloseMode} (hhoused : Housed .vacant H)
      (hcaught : Caught (Leased (some mode)) h receiver sent ending.caught ending.completion)
      (hanswered : h.commands.length = sent.length) :
      Housed .vacant (.call ⟨false⟩ (.finishExplicit mode) ending.outcome ::
        session (heardExchanges (h.commands.zip (sent.map Response.result).reverse)) H)
  | buried {H : History (RuntimeCalls m r) Controller} {outcome : WorkerThreadOutcome} {mode : CloseMode}
      (hhoused : Housed (.ended outcome) H) : Housed .vacant (.call ⟨false⟩ (.finishExplicit mode) outcome :: H)

variable {H : History (RuntimeCalls m r) Controller} {x : Gamepad m} {results : List CommandResult} {h : Log m r}

namespace Gamepad

variable {y z : Gamepad m} {controller : Controller}

theorem lives_opens {answer : Except ErrorChain Unit} (hlives : (host m r).Lives .closed H x)
    (hdrifted : (host m r).Drifted x y) (hopens : y.Opens answer z) :
    (host m r).Lives .closed (.call controller .openRuntime answer :: H) z := .answered hlives hdrifted hopens

theorem lives_exchanges {command : RuntimeCommand m r} {answer : Exchanged} (hlives : (host m r).Lives .closed H x)
    (hdrifted : (host m r).Drifted x y) (hexchanges : y.Exchanges command answer z) :
    (host m r).Lives .closed (.call controller (.exchange command) answer :: H) z :=
  .answered hlives hdrifted hexchanges

theorem lives_finishes {mode : CloseMode} {outcome : WorkerThreadOutcome} (hlives : (host m r).Lives .closed H x)
    (hdrifted : (host m r).Drifted x y) (hfinishes : y.Finishes outcome z) :
    (host m r).Lives .closed (.call controller (.finishExplicit mode) outcome :: H) z :=
  .answered hlives hdrifted hfinishes

/-- An open gamepad lives through what its pad plays. -/
theorem lives_plays {played : List (RuntimeCommand m r × CommandResult)} {p q : Pad m}
    (hlives : (host m r).Lives .closed H (.live p)) (hplays : (pad m r).Plays p played q) :
    ∃ y, (host m r).Lives .closed (exchangeEvents (heardExchanges played) ++ H) y ∧
      (host m r).Drifted y (.live q) := by
  induction hplays with
  | start => exact ⟨_, hlives, .refl⟩
  | drifted _ hdrifted ih =>
    obtain ⟨y, hbefore, hy⟩ := ih
    refine ⟨y, hbefore, hy.trans ?_⟩
    exact hdrifted.lift Gamepad.live fun _ _ hdrifts => .pad hdrifts
  | answered _ hanswers ih =>
    obtain ⟨y, hbefore, hy⟩ := ih
    exact ⟨_, lives_exchanges hbefore hy (.answered hanswers), .refl⟩

/-- A failed gamepad lives through exchanges without an answer. -/
theorem lives_lost {lost : List (RuntimeCommand m r × Exchanged)} (hlives : (host m r).Lives .closed H y)
    (hdrifted : (host m r).Drifted y .failed) (hlost : ∀ exchange ∈ lost, exchange.2 ≠ .ok (.ok (.ok ()))) :
    ∃ z, (host m r).Lives .closed (exchangeEvents lost ++ H) z ∧ (host m r).Drifted z .failed := by
  induction lost with
  | nil => exact ⟨y, hlives, hdrifted⟩
  | cons exchange lost ih =>
    obtain ⟨hfailed, hrest⟩ := List.forall_mem_cons.1 hlost
    obtain ⟨z, hbefore, hz⟩ := ih hrest
    exact ⟨.failed, lives_exchanges hbefore hz (.unheard hfailed), .refl⟩

end Gamepad

theorem Unheard.failed {answer : Exchanged} (hlost : Unheard answer) : answer ≠ .ok (.ok (.ok ())) := by
  rintro rfl
  rcases hlost with hlost | hlost
  · cases hlost
  · cases hlost

/-- The last answers of a worker are those of a gamepad that then fails. -/
theorem LastAnswers.lives (hlasts : LastAnswers h results) {heard : List (RuntimeCommand m r)}
    (hheard : heard <:+ h.commands) (hanswered : heard.length = results.length)
    (hlives : (Gamepad.host m r).Lives .closed H (.live .new)) :
    ∃ y, (Gamepad.host m r).Lives .closed (exchangeEvents (heardExchanges (heard.zip results)) ++ H) y ∧
      (Gamepad.host m r).Drifted y .failed := by
  cases hlasts with
  | answered hlength hplays =>
    rw [hheard.eq_of_length (hanswered.trans hlength.symm)]
    obtain ⟨y, hlives', hy⟩ := Gamepad.lives_plays hlives hplays
    exact ⟨y, hlives', hy.tail .failed⟩
  | refused hcommands hlength hplays =>
    rw [hcommands] at hheard
    rw [hheard.eq_of_length (hanswered.trans (congrArg Nat.succ hlength.symm))]
    obtain ⟨y, hlives', hy⟩ := Gamepad.lives_plays hlives hplays
    refine ⟨.failed, Gamepad.lives_exchanges hlives' (hy.tail .failed) (.unheard ?_), .refl⟩
    rintro ⟨⟩
  | lost hcommands hlength hplays =>
    rw [hcommands, List.suffix_cons_iff] at hheard
    rcases hheard with rfl | hheard
    · rw [List.length_cons, hlength] at hanswered
      exact absurd hanswered (Nat.succ_ne_self _)
    · rw [hheard.eq_of_length (hanswered.trans hlength.symm)]
      obtain ⟨y, hlives', hy⟩ := Gamepad.lives_plays hlives hplays
      exact ⟨y, hlives', hy.tail .failed⟩

theorem ThreadEnd.outcome_failed {ending : ThreadEnd} {cause : WorkerFailureCause}
    {cleanupError : Option CleanupFailure} (hterminal : ending.completion.terminal = .failed cause cleanupError) :
    ending.outcome.hasFailed = true := by
  unfold ThreadEnd.outcome finishCompleted
  rw [hterminal]
  rfl

/-- The outcome of a worker that has ended by itself tells so. -/
def Quarters.Tells : Quarters m r → Prop
  | .ended outcome => outcome.hasFailed = true
  | .vacant | .serving _ => True

/-- A gamepad can have lived through every history of a runtime, and come to be what the worker is. -/
theorem Housed.lives {quarters : Quarters m r} (hhoused : Housed quarters H) :
    quarters.Tells ∧ ∃ y, (Gamepad.host m r).Lives .closed H y ∧ (Gamepad.host m r).Drifted y quarters.gamepad := by
  induction hhoused with
  | built => exact ⟨trivial, .closed, .start, .refl⟩
  | noted _ ih =>
    obtain ⟨-, y, hlives, hy⟩ := ih
    exact ⟨trivial, y, .emitted hlives, hy⟩
  | unopened _ ih =>
    obtain ⟨-, y, hlives, hy⟩ := ih
    exact ⟨trivial, .closed, Gamepad.lives_opens hlives hy .unopened, .refl⟩
  | serving _ hserving hfree ih =>
    obtain ⟨-, y, hlives, hy⟩ := ih
    have hplays := hserving.follows.played (hserving.free hfree)
    exact ⟨trivial, Gamepad.lives_plays (Gamepad.lives_opens hlives hy .opened) hplays⟩
  | @ended _ _ _ sent ending _ lost _ hcaught hheard hanswered hlost ih =>
    obtain ⟨-, y, hlives, hy⟩ := ih
    have hleaves := hcaught.leaves
    generalize hterminal : ending.completion.terminal = terminal at hleaves
    cases hleaves with
    | failed hlasts =>
      -- The gamepad fails between the last answer and the first exchange that is lost.
      have hcount := hanswered.trans (length_results sent).symm
      obtain ⟨y₁, hlives₁, hy₁⟩ := hlasts.lives hheard hcount (Gamepad.lives_opens hlives hy .opened)
      obtain ⟨z, hlives₂, hz⟩ := Gamepad.lives_lost hlives₁ hy₁ fun exchange hmem => (hlost exchange hmem).failed
      refine ⟨ThreadEnd.outcome_failed hterminal, z, ?_, hz⟩
      unfold session exchangeEvents
      rw [List.map_append, List.append_assoc]
      exact hlives₂
    | closed hasked hplays => exact absurd rfl hasked
  | @closed _ _ _ _ ending _ _ hcaught hanswered ih =>
    obtain ⟨-, y, hlives, hy⟩ := ih
    have hleaves := hcaught.leaves
    generalize hterminal : ending.completion.terminal = terminal at hleaves
    cases hleaves with
    | failed hlasts =>
      -- The worker has failed before it took the shutdown.
      have hcount := hanswered.trans (length_results _).symm
      obtain ⟨y₁, hlives₁, hy₁⟩ := hlasts.lives (List.suffix_refl _) hcount (Gamepad.lives_opens hlives hy .opened)
      exact ⟨trivial, .closed, Gamepad.lives_finishes hlives₁ hy₁ (.buried (ThreadEnd.outcome_failed hterminal)), .refl⟩
    | closed hasked hplays =>
      obtain ⟨y₁, hlives₁, hy₁⟩ := Gamepad.lives_plays (Gamepad.lives_opens hlives hy .opened) hplays
      exact ⟨trivial, .closed, Gamepad.lives_finishes hlives₁ hy₁ .closed, .refl⟩
  | buried _ ih =>
    obtain ⟨htells, y, hlives, hy⟩ := ih
    exact ⟨trivial, .closed, Gamepad.lives_finishes hlives hy (.buried htells), .refl⟩

/-- The calls of a controller are answered as the calls of a gamepad, and the gamepad is what has become of the last
worker. -/
theorem controller_plays {calls : List (Call m r × CallResult)} {controller : Controller} {quarters : Quarters m r}
    (hused : Used calls H controller) (hhoused : Housed quarters H) :
    (gamepad m r).Plays .closed calls quarters.gamepad ∧ controller.runtime = quarters.gamepad.isOpen := by
  obtain ⟨-, y, hlives, hy⟩ := hhoused.lives
  obtain ⟨hplays, hopen⟩ := Gamepad.used_plays hused hlives
  exact ⟨.drifted hplays hy, hopen.trans (Gamepad.drifted_isOpen hy).symm⟩

/-! ## A sample controller -/

variable {h' : Log m r} {sent : List Response} {closing : Option CloseMode}

theorem Leased.of_unasked (timeout : Duration) (hpairs : h'.pairsUnasked timeout = true) :
    Leased closing sent h h' := by
  intro f request h₀ hsuffix
  cases List.all_eq_true.1 (Bool.and_eq_true_iff.1 hpairs).2 _ (hsuffix.subset List.mem_cons_self)

/-- A controller that opens the sample worker and pairs is a ready gamepad, and a timeout that is too long changes
nothing. -/
theorem controller_plays_paired : (gamepad .pro .direct).Plays .closed
    [(.pair .MAX, .error (.single connectionTimeoutError)), (.pair sampleTimeout, .ok none), (.open, .ok none)]
    (.live sampleReady.2.pad) ∧ sampleReady.2.pad.ready = true := by
  refine ⟨?_, by decide +kernel⟩
  have hopen : Prog.Exec ((Call.open : Call .pro .direct).run ⟨false⟩) [] (session [] []) ⟨true⟩ (.ok none) :=
    .call (.ok ()) .done
  have hpair : Prog.Exec ((Call.pair sampleTimeout : Call .pro .direct).run ⟨true⟩) (session [] [])
      (session [(.pair sampleTimeout, .ok (.ok (.ok ())))] []) ⟨true⟩ (.ok none) := .call (.ok (.ok (.ok ()))) .done
  have hlong : Prog.Exec ((Call.pair .MAX : Call .pro .direct).run ⟨true⟩)
      (session [(.pair sampleTimeout, .ok (.ok (.ok ())))] []) (session [(.pair sampleTimeout, .ok (.ok (.ok ())))] [])
      ⟨true⟩ (.error (.single connectionTimeoutError)) := .done
  have hused := ((Used.built.called hopen).called hpair).called hlong
  have hpairs : sampleReady.1.pairsUnasked sampleTimeout = true := by decide +kernel
  obtain ⟨receiver, response, hserving, hfree, hresult⟩ := @sampleReady_serving (Leased none)
    (.of_unasked sampleTimeout (by decide +kernel)) (.of_unasked sampleTimeout hpairs)
  have hhoused := Housed.serving .built hserving hfree
  rw [Log.pairsUnasked_commands hpairs, List.map_singleton, List.reverse_singleton, hresult] at hhoused
  exact (controller_plays hused hhoused).1

end Swbt
