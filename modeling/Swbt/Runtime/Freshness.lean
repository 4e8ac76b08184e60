import Swbt.Runtime.Alike
import Swbt.Runtime.Run
/-!
# A session owes nothing to what came before it

When a session begins, two workers of one configuration resemble each other,
whatever they have been through.
-/

set_option autoImplicit false

open Effects

namespace Swbt

variable {m : ControllerKind} {r : ReportingKind} {h h' : Log m r} {s s' : Frame m r} {σ σ' : ConnectionSessionId}

/-! ## The begin of a session -/

/-- Two workers that differ in what a session resets. -/
structure Poised (s s' : Frame m r) : Prop where
  lifecycle : s'.lifecycle = s.lifecycle
  reporting : s'.reporting.resetPolicy = s.reporting.resetPolicy
  protocol : s'.protocol = s.protocol
  pending : s'.connectionCommandPending = s.connectionCommandPending
  budget : s'.budget = s.budget
  progress : s'.progress.masked = s.progress.masked

theorem Resembles.poised (hs : Resembles σ σ' s s') : Poised s s' where
  lifecycle := hs.lifecycle
  reporting := congrArg Reporting.resetPolicy hs.reporting
  protocol := hs.protocol
  pending := hs.pending
  budget := hs.budget
  progress := hs.progress

/-- The two workers resemble each other in sessions of some names. -/
def Renamed {α β : Type} (rel : α → β → Prop) (s : Frame m r) (a : α) (s' : Frame m r) (b : β) : Prop :=
  (∃ σ σ', Resembles σ σ' s s') ∧ rel a b

theorem Poised.begun (hs : Poised s s') (deadline : Duration) :
    Resembles s.sessions.prepareNext s'.sessions.prepareNext (s.beginSession deadline) (s'.beginSession deadline) where
  lifecycle := rfl
  input := rfl
  reporting := hs.reporting
  committed := rfl
  protocol := hs.protocol
  observed := rfl
  current := .some
  connection := by
    refine ⟨some ⟨.first, some (Reporting.beginHandshake r .first), .new .first deadline⟩, ?_, ?_⟩
    · cases r <;> rfl
    · cases r <;> rfl
  pending := hs.pending
  connected := rfl
  budget := hs.budget
  progress := hs.progress

/-- A session is begun with three outputs and no call. -/
theorem beginConnection_eq (hopen : s.lifecycle.current = .open) (t timeout : Duration) :
    beginConnection t timeout s = .emit s.resetSender (.status (ReportSender.statusCall { s.sender with committed := .default }))
      (.emit s.resetInput (.status (.setSnapshot .neutral))
        (.emit (s.beginSession (deadlineAfter t timeout)) (.status (.beginSession s.sessions.prepareNext .connecting .neutral))
          (.done (s.beginSession (deadlineAfter t timeout)) (.ok s.sessions.prepareNext)))) := by
  obtain ⟨⟨⟨current⟩, input, reporting, sender, protocol, observed, sessions, connection, pending, connected, budget⟩,
    progress⟩ := s
  cases hopen
  cases reporting with
  | periodic runtime => rfl
  | direct runtime => rfl

theorem beginConnection_twin (hs : Poised s s') (hopen : s.lifecycle.current = .open) (t timeout : Duration) :
    Prog.Twin SameOutput (Renamed fun a b => ∃ σ σ', a = .ok σ ∧ b = .ok σ') (beginConnection t timeout s)
      (beginConnection t timeout s') := by
  have hopen' : s'.lifecycle.current = .open := by rw [hs.lifecycle, hopen]
  rw [beginConnection_eq hopen, beginConnection_eq hopen']
  refine .emit rfl (.emit rfl (.emit rfl (.done ?_)))
  exact ⟨⟨_, _, hs.begun _⟩, _, _, rfl, rfl⟩

theorem beginConnection_refused (hopen : s.lifecycle.current ≠ .open) (t timeout : Duration) :
    beginConnection t timeout s = .done s (.error .invalidLifecycle) := by
  obtain ⟨⟨⟨current⟩, rest⟩, progress⟩ := s
  cases current
  case «open» => exact absurd rfl hopen
  all_goals rfl

/-- What `connect` does at `t` once the transport has started. -/
def connectStarted (kind : ConnectionCommandKind) (t timeout : Duration) : Worker m r WorkerCommandProgress := do
  match ← beginConnection t timeout with
  | .error error => return .complete (.error (.connection ⟨kind, .begin error⟩))
  | .ok _ =>
    update fun s => { s with connectionCommandPending := some kind }
    return .pending

theorem connectStarted_begun (hs : Poised s s') (hopen : s.lifecycle.current = .open) (kind : ConnectionCommandKind)
    (t timeout : Duration) :
    Prog.Twin SameOutput (Renamed Eq) (connectStarted kind t timeout s) (connectStarted kind t timeout s') := by
  refine (beginConnection_twin hs hopen t timeout).bind ?_
  rintro s₁ _ s₁' _ ⟨⟨σ, σ', hs₁⟩, _, _, rfl, rfl⟩
  exact .done ⟨⟨σ, σ', { hs₁ with pending := rfl }⟩, rfl⟩

theorem connectStarted_twin (hs : Resembles σ σ' s s') (kind : ConnectionCommandKind) (t timeout : Duration) :
    Prog.Twin SameOutput (Renamed Eq) (connectStarted kind t timeout s) (connectStarted kind t timeout s') := by
  by_cases hopen : s.lifecycle.current = .open
  · exact connectStarted_begun hs.poised hopen kind t timeout
  · have hopen' : s'.lifecycle.current ≠ .open := by
      rw [hs.lifecycle]
      exact hopen
    change Prog.Twin _ _ ((beginConnection t timeout s).bind _) ((beginConnection t timeout s').bind _)
    rw [beginConnection_refused hopen, beginConnection_refused hopen']
    exact .done ⟨⟨σ, σ', hs⟩, rfl⟩

theorem connect_twin (hs : Resembles σ σ' s s') (kind : ConnectionCommandKind) (timeout : Duration) :
    Prog.Twin SameOutput (Renamed Eq) (connect kind timeout s) (connect kind timeout s') := by
  cases kind
  all_goals
    refine .call ?_
    rintro (error | ⟨⟩)
    · exact .done ⟨⟨σ, σ', hs⟩, rfl⟩
    · exact .call fun t => connectStarted_twin hs _ t timeout

/-- An action that keeps the names of the sessions. -/
theorem Alike.renamed {α β : Type} {rel : α → β → Prop} {x : Worker m r α} {y : Worker m r β} (hx : Alike σ σ' rel x y)
    (hs : Resembles σ σ' s s') : Prog.Twin SameOutput (Renamed rel) (x s) (y s') :=
  (hx s s' hs).mono fun _ _ _ _ hend => ⟨⟨σ, σ', hend.1⟩, hend.2⟩

theorem runCommand_twin (hs : Resembles σ σ' s s') (command : RuntimeCommand m r) :
    Prog.Twin SameOutput (Renamed Eq) (runCommand command s) (runCommand command s') := by
  cases command with
  | pair timeout => exact connect_twin hs .pair timeout
  | reconnect timeout => exact connect_twin hs .reconnect timeout
  | input command =>
    refine Alike.renamed ?_ hs
    unfold runCommand
    refine Alike.read ?_
    intro s s' hs
    dsimp only
    rw [hs.lifecycle]
    cases s.lifecycle.ensureInputCommand with
    | error error => exact .pure rfl
    | ok alive =>
      refine Alike.next (.call Op.now) ?_
      intro now
      exact Reporting.handleCommand_alike _ _ _

/-- What the step does with the outcome of the command. -/
def commandDone (result : WorkerCommandProgress) : Worker m r (Option WorkerStep) := do
  let (completion, terminal) := nonterminalCommandProgress result
  recordCommandProgress completion
  match ← closeIfRequested with
  | some exit => return some exit
  | none =>
    match terminal with
    | some error => return some (← fail error)
    | none => return none

theorem commandDone_alike (result : WorkerCommandProgress) :
    Alike (m := m) (r := r) σ σ' SameExit (commandDone result) (commandDone result) := by
  unfold commandDone
  exact Alike.next (recordCommandProgress_alike (.refl _)) fun _ => afterPhase_alike _

/-- The command phase of a worker that waits for nothing. -/
def takeCommand : Worker m r (Option WorkerStep) := do
  match ← nextCommand with
  | none => return none
  | some command =>
    modifyProgress fun p => { p with commands := p.commands + 1 }
    commandDone (← runCommand command)

theorem commandPhase_eq : commandPhase s =
    (if s.connectionCommandPending.isSome || s.reporting.hasPending then pure none else takeCommand) s := rfl

theorem commandPhase_idle (hidle : (s.connectionCommandPending.isSome || s.reporting.hasPending) = false) :
    commandPhase s = takeCommand s := by
  rw [commandPhase_eq, hidle]
  rfl

theorem commandPhase_busy (hbusy : (s.connectionCommandPending.isSome || s.reporting.hasPending) = true) :
    commandPhase s = .done s none := by
  rw [commandPhase_eq, hbusy]
  rfl

theorem Resembles.countCommand (hs : Resembles σ σ' s s') : Resembles σ σ' s.countCommand s'.countCommand := by
  refine { hs with progress := ?_ }
  change { s'.progress.masked with commands := s'.progress.masked.commands + 1 } =
    { s.progress.masked with commands := s.progress.masked.commands + 1 }
  rw [hs.progress]

theorem commandPhase_twin (hs : Resembles σ σ' s s') :
    Prog.Twin SameOutput (Renamed SameExit) (commandPhase s) (commandPhase s') := by
  have hsame : (s'.connectionCommandPending.isSome || s'.reporting.hasPending) =
      (s.connectionCommandPending.isSome || s.reporting.hasPending) := by rw [hs.pending, hs.reporting]
  cases hbusy : s.connectionCommandPending.isSome || s.reporting.hasPending with
  | true =>
    rw [commandPhase_busy hbusy, commandPhase_busy (hsame.trans hbusy)]
    exact .done ⟨⟨σ, σ', hs⟩, .none⟩
  | false =>
    rw [commandPhase_idle hbusy, commandPhase_idle (hsame.trans hbusy)]
    refine .call ?_
    rintro (_ | command)
    · exact .done ⟨⟨σ, σ', hs⟩, .none⟩
    · refine (runCommand_twin hs.countCommand command).bind ?_
      rintro s₁ result s₁' _ ⟨⟨τ, τ', hs₁⟩, rfl⟩
      exact (commandDone_alike result).renamed hs₁

/-! ## Steps -/

/-- The step goes on after a phase that has not ended it. -/
def stepAfterPhase : Option WorkerStep → Worker m r WorkerStep
  | some exit => return exit
  | none => stepAfterCommand

theorem stepAfterPhase_twin {exit exit' : Option WorkerStep} (hs : Renamed SameExit s exit s' exit') :
    Prog.Twin SameOutput (Renamed SameStep) (stepAfterPhase exit s) (stepAfterPhase exit' s') := by
  obtain ⟨⟨σ, σ', hs⟩, hexit⟩ := hs
  cases hexit with
  | none => exact stepAfterCommand_alike.renamed hs
  | some hstep => exact .done ⟨⟨σ, σ', hs⟩, hstep⟩

theorem stepRuntime_twin (hs : Resembles σ σ' s s') :
    Prog.Twin SameOutput (Renamed SameStep) (stepRuntime s) (stepRuntime s') := by
  have hfresh : Resembles σ σ' s.fresh s'.fresh := { hs with progress := rfl }
  refine (closeIfRequested_alike.renamed hfresh).bind ?_
  rintro s₁ _ s₁' _ ⟨⟨τ, τ', hs₁⟩, _ | hstep⟩
  · exact (commandPhase_twin hs₁).bind fun _ _ _ _ hend => stepAfterPhase_twin hend
  · exact .done ⟨⟨τ, τ', hs₁⟩, hstep⟩

/-- Two open workers of one configuration. -/
structure OpenAlike (s s' : Frame m r) : Prop where
  left : IsOpen s.toWorkerCore
  right : IsOpen s'.toWorkerCore
  reporting : s'.reporting.resetPolicy = s.reporting.resetPolicy
  protocol : s'.protocol = s.protocol
  budget : s'.budget = s.budget

theorem OpenAlike.poised (hs : OpenAlike s s') : Poised s.fresh.countCommand s'.fresh.countCommand where
  lifecycle := hs.right.lifecycle.trans hs.left.lifecycle.symm
  reporting := hs.reporting
  protocol := hs.protocol
  pending := hs.right.command.trans hs.left.command.symm
  budget := hs.budget
  progress := rfl

theorem IsOpen.unoccupied (hopen : IsOpen s.toWorkerCore) :
    (s.fresh.connectionCommandPending.isSome || s.fresh.reporting.hasPending) = false := by
  change (s.connectionCommandPending.isSome || s.reporting.hasPending) = false
  rw [hopen.command, Reporting.hasPending_of_idle hopen.idle]
  rfl

/-- In the environment a step begins with a connection command and its start. -/
structure Starts (env : Nat → (op : Op) → Op.Ans m r op) (kind : ConnectionCommandKind) (timeout : Duration) : Prop where
  shutdown : env 0 .takeShutdown = none
  command : env 1 .nextCommand = some (connectCommand kind timeout)
  pairing : kind = .pair → env 2 .startPairing = .ok ()
  reconnect : kind = .reconnect → env 2 .startReconnect = .ok ()

theorem OpenAlike.step {env : Nat → (op : Op) → Op.Ans m r op} {kind : ConnectionCommandKind} {timeout : Duration}
    (hs : OpenAlike s s') (hstarts : Starts env kind timeout) :
    Prog.TwinIn env SameOutput (Renamed SameStep) 0 (stepRuntime s) (stepRuntime s') := by
  have hopen : s.fresh.countCommand.lifecycle.current = .open := congrArg LifecycleStateMachine.current hs.left.lifecycle
  have hrest : ∀ t, Prog.Twin SameOutput (Renamed SameStep)
      (((connectStarted kind t timeout s.fresh.countCommand).bind commandDone).bind stepAfterPhase)
      (((connectStarted kind t timeout s'.fresh.countCommand).bind commandDone).bind stepAfterPhase) := by
    intro t
    refine ((connectStarted_begun hs.poised hopen kind t timeout).bind ?_).bind fun _ _ _ _ hend => stepAfterPhase_twin hend
    rintro s₁ result s₁' _ ⟨⟨σ, σ', hs₁⟩, rfl⟩
    exact (commandDone_alike result).renamed hs₁
  refine .call ?_
  rw [hstarts.shutdown]
  change Prog.TwinIn env _ _ 1 ((commandPhase s.fresh).bind stepAfterPhase) ((commandPhase s'.fresh).bind stepAfterPhase)
  rw [commandPhase_idle hs.left.unoccupied, commandPhase_idle hs.right.unoccupied]
  refine .call ?_
  rw [hstarts.command]
  cases kind with
  | pair =>
    refine .call ?_
    rw [hstarts.pairing rfl]
    exact .call ((hrest _).inside _)
  | reconnect =>
    refine .call ?_
    rw [hstarts.reconnect rfl]
    exact .call ((hrest _).inside _)

/-! ## Sessions -/

/-- What tells an open worker's reporting apart is its period. -/
theorem Reporting.resetPolicy_of_idle {reporting reporting' : Reporting m r} (hidle : reporting.stopSession = reporting)
    (hidle' : reporting'.stopSession = reporting')
    (hperiod : reporting'.policy.map PeriodicPolicy.period = reporting.policy.map PeriodicPolicy.period) :
    reporting'.resetPolicy = reporting.resetPolicy := by
  rw [← hidle, ← hidle']
  cases reporting with
  | direct runtime =>
    cases reporting'
    rfl
  | periodic runtime =>
    cases reporting' with
    | periodic runtime' =>
      have hsame : runtime'.policy.period = runtime.policy.period := Option.some.inj hperiod
      simp only [Reporting.resetPolicy, Reporting.stopSession, PeriodicPolicy.resetForNewSession,
        PeriodicPolicy.stopSession, hsame]

theorem OpenAlike.of_runs (hrun : Run h s) (hrun' : Run h' s') (hopen : s.lifecycle.state = .open)
    (hopen' : s'.lifecycle.state = .open) (hprotocol : s'.protocol = s.protocol) (hbudget : s'.budget = s.budget)
    (hperiod : s'.reporting.policy.map PeriodicPolicy.period = s.reporting.policy.map PeriodicPolicy.period) :
    OpenAlike s s' := by
  have hleft := hrun.coherent.of_open (LifecycleStateMachine.current_of_state_open hopen)
  have hright := hrun'.coherent.of_open (LifecycleStateMachine.current_of_state_open hopen')
  exact ⟨hleft, hright, Reporting.resetPolicy_of_idle hleft.idle hright.idle hperiod, hprotocol, hbudget⟩

theorem SameStep.goesOn {step step' : WorkerStep} (hsame : SameStep step step') : step'.goesOn = step.goesOn := by
  have hmasked : ∀ step : WorkerStep, step.masked.goesOn = step.goesOn := by
    rintro (_ | _ | _)
    all_goals rfl
  rw [← hmasked step, ← hmasked step', hsame]

/-- A step in the environment `env 0`, and one in each of the next `n` as long as the worker goes on. -/
def playSession (env : Nat → Nat → (op : Op) → Op.Ans m r op) (point : Log m r × Frame m r) :
    Nat → Log m r × Frame m r × WorkerStep
  | 0 => playStep (env 0) point
  | n + 1 =>
    let before := playSession env point n
    if before.2.2.goesOn then playStep (env (n + 1)) (before.1, before.2.1) else before

/-- The two have done the same since `h` and `h'`, and are in resembling states. -/
structure SessionTwin (h h' : Log m r) (ended ended' : Log m r × Frame m r × WorkerStep) : Prop where
  added : ∃ added added', ended.1 = added ++ h ∧ ended'.1 = added' ++ h' ∧
    List.Forall₂ (Event.Twin SameOutput) added added'
  states : ∃ σ σ', Resembles σ σ' ended.2.1 ended'.2.1
  step : SameStep ended.2.2 ended'.2.2

theorem SessionTwin.next {ended ended' : Log m r × Frame m r × WorkerStep} (hsame : SessionTwin h h' ended ended')
    (env : Nat → (op : Op) → Op.Ans m r op) :
    SessionTwin h h' (playStep env (ended.1, ended.2.1)) (playStep env (ended'.1, ended'.2.1)) := by
  obtain ⟨before, before', hbefore, hbefore', hevents⟩ := hsame.added
  obtain ⟨σ, σ', hs⟩ := hsame.states
  obtain ⟨added, added', hadded, hadded', htwins, hstates, hstep⟩ :=
    ((stepRuntime_twin hs).inside (E := WorkerInterface m r) 0).run ended.1 ended'.1
  refine ⟨⟨added ++ before, added' ++ before', ?_, ?_, List.rel_append htwins hevents⟩, hstates, hstep⟩
  · rw [List.append_assoc, ← hbefore]
    exact hadded
  · rw [List.append_assoc, ← hbefore']
    exact hadded'

/-- A session is the same, up to its name, whatever the worker has been through before. -/
theorem session_fresh (hrun : Run h s) (hrun' : Run h' s') (hopen : s.lifecycle.state = .open)
    (hopen' : s'.lifecycle.state = .open) (hprotocol : s'.protocol = s.protocol) (hbudget : s'.budget = s.budget)
    (hperiod : s'.reporting.policy.map PeriodicPolicy.period = s.reporting.policy.map PeriodicPolicy.period)
    {kind : ConnectionCommandKind} {timeout : Duration} {env : Nat → Nat → (op : Op) → Op.Ans m r op}
    (hstarts : Starts (env 0) kind timeout) (n : Nat) :
    SessionTwin h h' (playSession env (h, s) n) (playSession env (h', s') n) := by
  have halike := OpenAlike.of_runs hrun hrun' hopen hopen' hprotocol hbudget hperiod
  induction n with
  | zero =>
    obtain ⟨added, added', hadded, hadded', htwins, hstates, hstep⟩ := (halike.step hstarts).run h h'
    exact ⟨⟨added, added', hadded, hadded', htwins⟩, hstates, hstep⟩
  | succ n ih =>
    simp only [playSession, ih.step.goesOn]
    split
    · exact ih.next _
    · exact ih

/-- The worker that was pairing, once its command has timed out. -/
def sampleTimedOut : Log .pro .direct × Frame .pro .direct :=
  play (scripted sampleTimeout (fun _ => none) fun _ => []) samplePairing

/-- Pairing, and a host that connects in the next step. -/
def samplePairings : Nat → Nat → (op : Op) → Op.Ans .pro .direct op
  | 0 => scripted .ZERO (fun _ => some (.pair sampleTimeout)) fun _ => []
  | _ => scripted .ZERO (fun _ => none) fun n => if n = 1 then [.connected, .hidChannelOpened .control,
    .hidChannelOpened .interrupt, sampleSubcommand 0x03 0x30] else []

theorem session_fresh_sample : SessionTwin sampleDirect.openLog sampleTimedOut.1
    (playSession samplePairings (sampleDirect.openLog, sampleDirect.start) 3) (playSession samplePairings sampleTimedOut 3) := by
  have hopened : Run sampleDirect.openLog sampleDirect.start := .opened (.direct _ _)
  have htimedOut : Run sampleTimedOut.1 sampleTimedOut.2 := samplePairing_run.play _ (by decide +kernel)
  have hstarts : Starts (samplePairings 0) .pair sampleTimeout := ⟨rfl, rfl, fun _ => rfl, fun _ => rfl⟩
  exact session_fresh hopened htimedOut rfl (by decide +kernel) rfl rfl rfl hstarts 3

end Swbt
