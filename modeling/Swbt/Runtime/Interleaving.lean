import Swbt.Runtime.Waiting
import Swbt.Runtime.Wakeup
/-!
# The worker and those it shares with

The command channel, the shutdown latch, the transport's queue and the activity
channel are shared. Clients and the transport change them between any two calls
of the worker, and notify it after that with a call of its own.
-/

set_option autoImplicit false

open Effects

namespace Swbt

variable {m : ControllerKind} {r : ReportingKind} {h h₀ h' : Log m r} {s s₀ s' : Frame m r}

/-- What a worker shares, and its end of the command channel. `arrived` is all that
was ever queued at the transport, and `notifying` counts the calls that have
changed something and have their `notify` still to make. -/
structure Room (m : ControllerKind) (r : ReportingKind) where
  commands : Option (CommandRequest m r)
  receiver : CommandReceiver
  shutdown : ShutdownState
  events : List TransportEvent
  arrived : List TransportEvent
  activity : Bool
  notifying : Nat

/-- A take leaves no request. -/
theorem ShutdownState.take_ne (state : ShutdownState) (request : ShutdownRequest) : state.take.2 ≠ .requested request := by
  cases state <;> exact nofun

/-- A worker with no command in flight empties the channel. -/
theorem CommandReceiver.tryNext_idle {receiver : CommandReceiver} (hidle : receiver.inFlight = none)
    (channel : Option (CommandRequest m r)) : (receiver.tryNext channel).2.2 = none := by
  unfold tryNext
  rw [hidle]
  cases channel with
  | none => rfl
  | some request => rfl

/-- A command is in flight after a call if one was before, or if it was taken by it. -/
theorem CommandReceiver.tryNext_inFlight (receiver : CommandReceiver) (channel : Option (CommandRequest m r)) :
    (receiver.tryNext channel).2.1.inFlight.isSome = (receiver.inFlight.isSome || (receiver.tryNext channel).1.isSome) := by
  obtain ⟨_ | completion⟩ := receiver
  · cases channel with
    | none => rfl
    | some request => rfl
  · rfl

namespace Room

variable {w w' : Room m r}

/-- What a call of the worker does. A poll takes events from the front of the
queue, and is empty only if the queue is. -/
inductive Does (w : Room m r) : (op : Op) → Op.Ans m r op → Room m r → Prop
  | takeShutdown : Does w .takeShutdown w.shutdown.take.1 { w with shutdown := w.shutdown.take.2 }
  | nextCommand : Does w .nextCommand (w.receiver.tryNext w.commands).1 { w with
      receiver := (w.receiver.tryNext w.commands).2.1
      commands := (w.receiver.tryNext w.commands).2.2 }
  | polled {timeout : Duration} {batch rest : List TransportEvent} (hqueue : w.events = batch ++ rest)
      (hempty : batch = [] → rest = []) : Does w (.poll timeout) (.ok batch) { w with events := rest }
  | pollFailed {timeout : Duration} {error : TransportError} {lost rest : List TransportEvent}
      (hqueue : w.events = lost ++ rest) : Does w (.poll timeout) (.error error) { w with events := rest }
  | other {op : Op} {ans : Op.Ans m r op} (hshutdown : op ≠ .takeShutdown) (hcommand : op ≠ .nextCommand)
      (hpoll : ∀ timeout, op ≠ .poll timeout) : Does w op ans w

/-- What clients and the transport do. The transport notifies after it has queued an event. -/
inductive Others (w : Room m r) : Room m r → Prop
  | enqueued {request : CommandRequest m r} {commands : Option (CommandRequest m r)}
      (haccepted : request.tryEnqueue true w.commands = .ok commands) :
      Others w { w with commands, notifying := w.notifying + 1 }
  | requested (request : ShutdownRequest) :
      Others w { w with
        shutdown := (w.shutdown.request request).1
        notifying := w.notifying + if (w.shutdown.request request).2 then 1 else 0 }
  | arrived (event : TransportEvent) :
      Others w { w with
        events := w.events ++ [event], arrived := w.arrived ++ [event], notifying := w.notifying + 1 }
  | notified {notifying : Nat} (hnotifying : w.notifying = notifying + 1) :
      Others w { w with activity := true, notifying }

/-- The worker is about to be woken, or will be. -/
def Rousing (w : Room m r) : Prop := w.activity = true ∨ 0 < w.notifying

/-- Something is waiting for the worker. -/
def Pending (w : Room m r) : Source → Prop
  | .shutdown => ∃ request, w.shutdown = .requested request
  | .command => w.commands.isSome = true
  | .events => w.events ≠ []

/-- What waits there will wake the worker. -/
def Heard (w : Room m r) (source : Source) : Prop := w.Pending source → w.Rousing

theorem Others.rousing (hothers : Others w w') (hrousing : w.Rousing) : w'.Rousing := by
  rcases hrousing with hactivity | hnotifying
  · cases hothers with
    | notified hnotifying => exact .inl rfl
    | _ => exact .inl hactivity
  · cases hothers with
    | notified hnotifying => exact .inl rfl
    | _ => exact .inr (by dsimp only; omega)

/-- Others notify of what they bring. -/
theorem Others.pending {source : Source} (hothers : Others w w') (hpending : w'.Pending source) :
    w.Pending source ∨ w'.Rousing := by
  cases hothers with
  | enqueued haccepted => exact .inr (.inr (Nat.succ_pos _))
  | arrived event => exact .inr (.inr (Nat.succ_pos _))
  | notified hnotifying => exact .inr (.inl rfl)
  | requested request =>
    cases source with
    | command => exact .inl hpending
    | events => exact .inl hpending
    | shutdown =>
      cases hchanged : (w.shutdown.request request).2 with
      | true => exact .inr (.inr (Nat.succ_pos _))
      | false =>
        -- A request that changes nothing notifies nobody, and was pending before.
        have hsame : (w.shutdown.request request).1 = w.shutdown := by
          by_contra hne
          exact absurd ((w.shutdown.request_changed request).2 hne) (by rw [hchanged]; exact Bool.false_ne_true)
        obtain ⟨asked, hasked⟩ := hpending
        exact .inl ⟨asked, hsame.symm.trans hasked⟩

theorem Heard.others {source : Source} (hheard : w.Heard source) (hothers : Others w w') : w'.Heard source := by
  intro hpending
  rcases hothers.pending hpending with hbefore | hrousing
  · exact hothers.rousing (hheard hbefore)
  · exact hrousing

/-- A call of the worker neither wakes it nor puts it to sleep. -/
theorem Does.rousing {op : Op} {ans : Op.Ans m r op} (hdoes : w.Does op ans w') : w'.Rousing ↔ w.Rousing := by
  cases hdoes <;> exact Iff.rfl

theorem Does.pending {op : Op} {ans : Op.Ans m r op} {source : Source} (hdoes : w.Does op ans w')
    (hpending : w'.Pending source) : w.Pending source := by
  cases hdoes with
  | other hshutdown hcommand hpoll => exact hpending
  | takeShutdown =>
    cases source with
    | command => exact hpending
    | events => exact hpending
    | shutdown =>
      obtain ⟨request, hrequest⟩ := hpending
      exact absurd hrequest (w.shutdown.take_ne request)
  | nextCommand =>
    cases source with
    | shutdown => exact hpending
    | events => exact hpending
    | command =>
      change (w.receiver.tryNext w.commands).2.2.isSome = true at hpending
      change w.commands.isSome = true
      unfold CommandReceiver.tryNext at hpending
      split at hpending
      · exact hpending
      · split at hpending
        · cases hpending
        · cases hpending
  | polled hqueue hempty =>
    cases source with
    | shutdown => exact hpending
    | command => exact hpending
    | events =>
      intro hnone
      rw [hqueue] at hnone
      exact hpending (List.append_eq_nil_iff.1 hnone).2
  | pollFailed hqueue =>
    cases source with
    | shutdown => exact hpending
    | command => exact hpending
    | events =>
      intro hnone
      rw [hqueue] at hnone
      exact hpending (List.append_eq_nil_iff.1 hnone).2

theorem Heard.does {op : Op} {ans : Op.Ans m r op} {source : Source} (hheard : w.Heard source) (hdoes : w.Does op ans w') :
    w'.Heard source := fun hpending => hdoes.rousing.2 (hheard (hdoes.pending hpending))

/-- An answer that nothing is waiting is true, of a command where none is in flight. -/
theorem Does.nothing {op : Op} {ans : Op.Ans m r op} {source : Source} (hdoes : w.Does op ans w')
    (hnothing : nothingAt (.call s op ans) = some source) (hidle : source = .command → w.receiver.inFlight = none) :
    ¬ w'.Pending source := by
  cases hdoes with
  | takeShutdown =>
    generalize w.shutdown.take.1 = answer at hnothing
    cases answer with
    | some request => cases hnothing
    | none =>
      cases hnothing
      rintro ⟨request, hrequest⟩
      exact w.shutdown.take_ne request hrequest
  | nextCommand =>
    have hleft := fun hidle => @CommandReceiver.tryNext_idle _ _ w.receiver hidle w.commands
    generalize (w.receiver.tryNext w.commands).1 = answer at hnothing
    cases answer with
    | some command => cases hnothing
    | none =>
      cases hnothing
      intro hpending
      change (w.receiver.tryNext w.commands).2.2.isSome = true at hpending
      rw [hleft (hidle rfl)] at hpending
      cases hpending
  | polled hqueue hempty =>
    rename_i batch rest
    cases batch with
    | cons event batch => cases hnothing
    | nil =>
      cases hnothing
      exact not_not.2 (hempty rfl)
  | pollFailed hqueue => cases hnothing
  | other hshutdown hcommand hpoll =>
    cases op with
    | takeShutdown => exact absurd rfl hshutdown
    | nextCommand => exact absurd rfl hcommand
    | poll timeout => exact absurd rfl (hpoll timeout)
    | _ => cases hnothing

end Room

/-! ## The worker loop -/

/-- Where `run_worker_loop` is: in a step begun from `s₀` after the log `h₀`, after the delivery, or in the wait. -/
inductive LoopPhase (m : ControllerKind) (r : ReportingKind)
  | stepping (h₀ : Log m r) (s₀ : Frame m r) (h : Log m r) (rest : Prog (WorkerInterface m r) (Frame m r) WorkerStep)
  | delivered (h : Log m r) (s : Frame m r) (progress : StepProgress)
  | waiting (h : Log m r) (s : Frame m r) (request : WorkerWaitRequest)

/-- The next step begins. -/
def LoopPhase.step (h : Log m r) (s : Frame m r) : LoopPhase m r := .stepping h s h (stepRuntime s)

/-- A room and a worker in it, after any steps of the worker, its clients and the transport. -/
inductive Interleaving : Room m r → LoopPhase m r → Prop
  | opened {core : WorkerCore m r} {w : Room m r} (hnew : core.IsNew) (hidle : w.receiver.inFlight = none)
      (harrived : w.arrived = w.events) : Interleaving w (.step core.openLog core.start)
  | others {w w' : Room m r} {phase : LoopPhase m r} (hrun : Interleaving w phase) (hothers : w.Others w') :
      Interleaving w' phase
  | called {w w' : Room m r} {h₀ h : Log m r} {s₀ s : Frame m r} {op : Op}
      {k : Op.Ans m r op → Prog (WorkerInterface m r) (Frame m r) WorkerStep} {ans : Op.Ans m r op}
      (hrun : Interleaving w (.stepping h₀ s₀ h (.call s op k))) (hdoes : w.Does op ans w') :
      Interleaving w' (.stepping h₀ s₀ (.call s op ans :: h) (k ans))
  | emitted {w : Room m r} {h₀ h : Log m r} {s₀ s : Frame m r} {out : Output m}
      {next : Prog (WorkerInterface m r) (Frame m r) WorkerStep}
      (hrun : Interleaving w (.stepping h₀ s₀ h (.emit s out next))) :
      Interleaving w (.stepping h₀ s₀ (.emit s out :: h) next)
  | delivered {w : Room m r} {h₀ h : Log m r} {s₀ s : Frame m r} {progress : StepProgress} {receiver : CommandReceiver}
      {sent : List Response} (hrun : Interleaving w (.stepping h₀ s₀ h (.done s (.continue progress))))
      (hdelivered : w.receiver.deliverProgress progress = (.ok (), receiver, sent)) :
      Interleaving { w with receiver } (.delivered h s progress)
  | atOnce {w : Room m r} {h : Log m r} {s : Frame m r} {progress : StepProgress} {t : Duration}
      (hrun : Interleaving w (.delivered h s progress)) (hrequest : progress.waitRequest t = none) :
      Interleaving w (.step h s)
  | waits {w : Room m r} {h : Log m r} {s : Frame m r} {progress : StepProgress} {t : Duration}
      {request : WorkerWaitRequest} (hrun : Interleaving w (.delivered h s progress))
      (hrequest : progress.waitRequest t = some request) : Interleaving w (.waiting h s request)
  | woken {w : Room m r} {h : Log m r} {s : Frame m r} {request : WorkerWaitRequest}
      (hrun : Interleaving w (.waiting h s request)) (hactivity : w.activity = true) :
      Interleaving { w with activity := false } (.step h s)
  | expired {w : Room m r} {h : Log m r} {s : Frame m r} {deadline : Duration}
      (hrun : Interleaving w (.waiting h s (.activityOrDeadline deadline))) : Interleaving w (.step h s)

/-! ### What a worker knows of the room -/

/-- A command is in flight for a worker that one waits in. -/
def Room.Fits (w : Room m r) (s : Frame m r) : Prop := w.receiver.inFlight.isSome = s.waits

/-- A worker in the middle of a step: what it has seen empty will wake it when it is not. -/
structure Watches (w : Room m r) (h₀ : Log m r) (s₀ : Frame m r) (h : Log m r)
    (rest : Prog (WorkerInterface m r) (Frame m r) WorkerStep) : Prop where
  run : Run h₀ s₀
  reach : Prog.Reach (stepRuntime s₀) h₀ h rest
  held : w.receiver.inFlight.isSome = true ↔ s₀.waits = true ∨ ¬ Adds Untaken h₀ h
  heard : ∀ source, Saw h₀ s₀ source h → w.Heard source

/-- A worker that may sleep: whatever it could take up will wake it. -/
structure Sleeps (w : Room m r) (s : Frame m r) : Prop where
  shutdown : w.Heard .shutdown
  command : s.waits = true ∨ w.Heard .command
  events : w.Heard .events

def Room.Knows (w : Room m r) : LoopPhase m r → Prop
  | .stepping h₀ s₀ h rest => Watches w h₀ s₀ h rest
  | .delivered h s progress => Run h s ∧ w.Fits s ∧ (progress.immediate = true ∨ Sleeps w s)
  | .waiting h s _ => Run h s ∧ w.Fits s ∧ Sleeps w s

variable {w w' : Room m r}

theorem untaken_cons {e : LogEvent m r} (hsuffix : h₀ <:+ h) : Adds Untaken h₀ (e :: h) ↔ Untaken e ∧ Adds Untaken h₀ h := by
  constructor
  · intro hadds
    obtain ⟨hbefore, hlast⟩ := Adds.parts hadds hsuffix (List.suffix_cons _ _)
    obtain ⟨added, hadded, hall⟩ := hlast
    have heq : [e] = added := List.append_cancel_right hadded
    exact ⟨hall e (heq ▸ List.mem_singleton_self e), hbefore⟩
  · rintro ⟨he, hadds⟩
    exact hadds.cons he

theorem Watches.begins (hrun : Run h s) (hfits : w.Fits s) : Watches w h s h (stepRuntime s) := by
  refine ⟨hrun, .refl, ?_, fun source hsaw => absurd hsaw not_saw⟩
  rw [hfits]
  exact ⟨.inl, fun hor => hor.resolve_right fun hnot => hnot .refl⟩

theorem Sleeps.others (hsleeps : Sleeps w s) (hothers : w.Others w') : Sleeps w' s :=
  ⟨hsleeps.shutdown.others hothers, hsleeps.command.imp_right fun hheard => hheard.others hothers,
    hsleeps.events.others hothers⟩

theorem Room.Others.receiver (hothers : w.Others w') : w'.receiver = w.receiver := by
  cases hothers <;> rfl

theorem Room.Fits.others (hfits : w.Fits s) (hothers : w.Others w') : w'.Fits s := by
  unfold Room.Fits
  rw [hothers.receiver]
  exact hfits

theorem Watches.others {rest : Prog (WorkerInterface m r) (Frame m r) WorkerStep} (hwatches : Watches w h₀ s₀ h rest)
    (hothers : w.Others w') : Watches w' h₀ s₀ h rest := by
  refine ⟨hwatches.run, hwatches.reach, ?_, fun source hsaw => (hwatches.heard source hsaw).others hothers⟩
  rw [hothers.receiver]
  exact hwatches.held

/-- Only a taken command puts one in flight. -/
theorem Room.Does.inFlight {op : Op} {ans : Op.Ans m r op} (hdoes : w.Does op ans w') (s : Frame m r) :
    w'.receiver.inFlight.isSome = true ↔ w.receiver.inFlight.isSome = true ∨ ¬ Untaken (.call s op ans) := by
  have hsame {op : Op} {ans : Op.Ans m r op} (huntaken : Untaken (.call s op ans)) (before : Prop) :
      before ↔ before ∨ ¬ Untaken (.call s op ans) := ⟨.inl, fun hor => hor.resolve_right (not_not.2 huntaken)⟩
  cases hdoes with
  | takeShutdown => exact hsame (by exact rfl) _
  | polled hqueue hempty => exact hsame (by exact rfl) _
  | pollFailed hqueue => exact hsame (by exact rfl) _
  | nextCommand =>
    change (w.receiver.tryNext w.commands).2.1.inFlight.isSome = true ↔ _
    rw [CommandReceiver.tryNext_inFlight, Bool.or_eq_true]
    refine or_congr_right ?_
    generalize (w.receiver.tryNext w.commands).1 = answer
    cases answer with
    | none => exact ⟨nofun, fun hnot => absurd rfl hnot⟩
    | some command => exact ⟨fun _ => nofun, fun _ => rfl⟩
  | other hshutdown hcommand hpoll =>
    refine hsame ?_ _
    cases op with
    | nextCommand => exact absurd rfl hcommand
    | _ => rfl

theorem Watches.called {op : Op} {k : Op.Ans m r op → Prog (WorkerInterface m r) (Frame m r) WorkerStep}
    {ans : Op.Ans m r op} (hwatches : Watches w h₀ s₀ h (.call s op k)) (hdoes : w.Does op ans w') :
    Watches w' h₀ s₀ (.call s op ans :: h) (k ans) := by
  refine ⟨hwatches.run, hwatches.reach.call ans, ?_, ?_⟩
  · rw [hdoes.inFlight s, hwatches.held, untaken_cons hwatches.reach.suffix, not_and_or, or_assoc]
    exact or_congr_right or_comm
  · intro source hsaw
    rcases hsaw.of_cons with hbefore | ⟨hnothing, hcommand⟩
    · exact (hwatches.heard source hbefore).does hdoes
    · intro hpending
      refine absurd hpending (hdoes.nothing hnothing ?_)
      intro hsource
      obtain ⟨hwaits, huntaken⟩ := hcommand hsource
      by_contra hflight
      -- With nothing taken since, only a command that waited at the start would be in flight.
      rcases hwatches.held.1 (Option.isSome_iff_ne_none.2 hflight) with hbusy | htaken
      · rw [hwaits] at hbusy
        cases hbusy
      · exact htaken huntaken

theorem Watches.emitted {out : Output m} {next : Prog (WorkerInterface m r) (Frame m r) WorkerStep}
    (hwatches : Watches w h₀ s₀ h (.emit s out next)) : Watches w h₀ s₀ (.emit s out :: h) next := by
  refine ⟨hwatches.run, hwatches.reach.emit, ?_, ?_⟩
  · rw [hwatches.held, untaken_cons hwatches.reach.suffix, and_iff_right (show Untaken (.emit s out) from rfl)]
  · intro source hsaw
    rcases hsaw.of_cons with hbefore | ⟨hnothing, -⟩
    · exact hwatches.heard source hbefore
    · cases hnothing

/-! ### The end of a step -/

/-- The command that is in flight at the end of a step is the one the frame is engaged with. -/
theorem Watches.engaged {progress : StepProgress} (hwatches : Watches w h₀ s₀ h (.done s (.continue progress))) :
    (w.receiver.inFlight.isSome = true ↔ s.Engaged) ∧ s.Unanswered ∧ progress.commandResult = s.progress.commandResult := by
  obtain ⟨s₁, hpath, hsound, rfl, rfl⟩ :=
    (hwatches.reach.ended.post (stepRuntime_spec _ _ hwatches.run.coherent)).of_continue
  have hengaged : s₁.finish.Engaged ↔ s₁.Engaged := Iff.rfl
  refine ⟨?_, hsound.unanswered, rfl⟩
  rw [hwatches.held, hengaged, s₀.waits_iff]
  constructor
  · rintro (hbusy | htaken)
    · exact hpath.engages.keeps hbusy
    · exact hpath.engages.takes.resolve_left htaken
  · intro hengaged
    by_contra hnot
    rw [not_or, not_not] at hnot
    exact hpath.idle hnot.2 hnot.1 hengaged

/-- A delivery leaves in flight what still waits. -/
theorem Watches.delivered {progress : StepProgress} {receiver : CommandReceiver} {sent : List Response}
    (hwatches : Watches w h₀ s₀ h (.done s (.continue progress)))
    (hdelivered : w.receiver.deliverProgress progress = (.ok (), receiver, sent)) :
    Room.Fits { w with receiver } s := by
  obtain ⟨hengaged, hunanswered, hprogress⟩ := hwatches.engaged
  unfold Room.Fits
  rw [Bool.eq_iff_iff, s.waits_iff]
  unfold CommandReceiver.deliverProgress at hdelivered
  cases hresult : progress.commandResult with
  | none =>
    rw [hresult] at hdelivered
    cases hdelivered
    rw [Frame.fresh_engaged_iff (hprogress.symm.trans hresult)]
    exact hengaged
  | some result =>
    rw [hresult] at hdelivered
    unfold CommandReceiver.deliverCompletion CommandReceiver.deliver at hdelivered
    cases hflight : w.receiver.inFlight with
    | none =>
      rw [hflight] at hdelivered
      cases hdelivered
    | some completion =>
      rw [hflight] at hdelivered
      cases hdelivered
      refine iff_of_false (by exact Bool.false_ne_true) (hunanswered.fresh ?_)
      rw [← hprogress, hresult]
      exact Option.some_ne_none _

theorem Watches.knows {progress : StepProgress} {receiver : CommandReceiver} {sent : List Response}
    (hwatches : Watches w h₀ s₀ h (.done s (.continue progress)))
    (hdelivered : w.receiver.deliverProgress progress = (.ok (), receiver, sent)) :
    Room.Knows { w with receiver } (.delivered h s progress) := by
  have hexec := hwatches.reach.ended
  refine ⟨.step hwatches.run hexec, hwatches.delivered hdelivered, ?_⟩
  refine (hexec.post (stepRuntime_looks hwatches.run.coherent) progress rfl).imp_right ?_
  rintro ⟨hshutdown, hcommand, hevents⟩
  exact ⟨hwatches.heard _ hshutdown, (hcommand.imp_left (hwatches.heard _)).symm, hwatches.heard _ hevents⟩

/-! ## The law -/

theorem waitRequest_sleeps {progress : StepProgress} {t : Duration} {request : WorkerWaitRequest}
    (hrequest : progress.waitRequest t = some request) : progress.immediate = false := by
  unfold StepProgress.waitRequest at hrequest
  split at hrequest
  · cases hrequest
  · rename_i hnot
    rw [Bool.or_eq_true, not_or] at hnot
    exact Bool.eq_false_iff.2 hnot.1

theorem Interleaving.knows {phase : LoopPhase m r} (hrun : Interleaving w phase) : w.Knows phase := by
  induction hrun with
  | opened hnew hidle harrived =>
    refine Watches.begins (.opened hnew) ?_
    unfold Room.Fits
    rw [hidle, Eq.comm, Option.isSome_none, ← Bool.not_eq_true, Frame.waits_iff]
    exact fun hengaged => nomatch (hnew.owes.busy hengaged).1
  | others hrun hothers ih =>
    rename_i phase
    cases phase with
    | stepping h₀ s₀ h rest => exact Watches.others ih hothers
    | delivered h s progress =>
      obtain ⟨hrun, hfits, hsleeps⟩ := ih
      exact ⟨hrun, hfits.others hothers, hsleeps.imp_right fun hsleeps => hsleeps.others hothers⟩
    | waiting h s request =>
      obtain ⟨hrun, hfits, hsleeps⟩ := ih
      exact ⟨hrun, hfits.others hothers, hsleeps.others hothers⟩
  | called hrun hdoes ih => exact Watches.called ih hdoes
  | emitted hrun ih => exact Watches.emitted ih
  | delivered hrun hdelivered ih => exact Watches.knows ih hdelivered
  | atOnce hrun hrequest ih => exact Watches.begins ih.1 ih.2.1
  | waits hrun hrequest ih =>
    obtain ⟨hrun, hfits, himmediate | hsleeps⟩ := ih
    · rw [waitRequest_sleeps hrequest] at himmediate
      cases himmediate
    · exact ⟨hrun, hfits, hsleeps⟩
  | woken hrun hactivity ih => exact Watches.begins ih.1 ih.2.1
  | expired hrun ih => exact Watches.begins ih.1 ih.2.1

/-- A waiting worker has something to take up only if its token is there, or a
call that has brought something there is still to notify it. -/
theorem no_lost_wakeup {request : WorkerWaitRequest} (hrun : Interleaving w (.waiting h s request))
    (hwork : (∃ asked, w.shutdown = .requested asked) ∨ (w.commands.isSome = true ∧ s.waits = false) ∨ w.events ≠ []) :
    w.activity = true ∨ 0 < w.notifying := by
  obtain ⟨-, -, hsleeps⟩ := hrun.knows
  rcases hwork with hshutdown | ⟨hcommand, hidle⟩ | hevents
  · exact hsleeps.shutdown hshutdown
  · rcases hsleeps.command with hbusy | hheard
    · exact absurd (hidle.symm.trans hbusy) Bool.false_ne_true
    · exact hheard hcommand
  · exact hsleeps.events hevents

/-! ## A run -/

namespace Room

/-- The answers of the room itself, and of a transport that takes every send. -/
def answer (t : Duration) (w : Room m r) : (op : Op) → Op.Ans m r op × Room m r
  | .takeShutdown => (w.shutdown.take.1, { w with shutdown := w.shutdown.take.2 })
  | .nextCommand => ((w.receiver.tryNext w.commands).1, { w with
      receiver := (w.receiver.tryNext w.commands).2.1
      commands := (w.receiver.tryNext w.commands).2.2 })
  | .poll _ => (.ok w.events, { w with events := [] })
  | op => (scripted t (fun _ => none) (fun _ => []) 0 op, w)

theorem answer_does (t : Duration) (w : Room m r) (op : Op) : w.Does op (w.answer t op).1 (w.answer t op).2 := by
  cases op with
  | takeShutdown => exact .takeShutdown
  | nextCommand => exact .nextCommand
  | poll timeout => exact .polled (List.append_nil _).symm fun _ => rfl
  | _ => exact .other nofun nofun nofun

/-- The execution in which the room answers every call. -/
def run (t : Duration) : Prog (WorkerInterface m r) (Frame m r) WorkerStep → Room m r → Log m r →
    Room m r × Log m r × Frame m r × WorkerStep
  | .done s step, w, h => (w, h, s, step)
  | .call s op k, w, h => run t (k (w.answer t op).1) (w.answer t op).2 (.call s op (w.answer t op).1 :: h)
  | .emit s out next, w, h => run t next w (.emit s out :: h)

/-- A room in which nothing goes on. -/
def empty : Room m r := ⟨none, ⟨none⟩, .running, [], [], false, 0⟩

end Room

/-- The step goes on, answers no command, and the loop then waits without a deadline. -/
def WorkerStep.rests : WorkerStep → Bool
  | «continue» progress => progress.commandResult.isNone && progress.waitRequest .ZERO == some .activity
  | closed .. | failed .. => false

/-- A program comes to its end in a room. -/
theorem Interleaving.ran (t : Duration) (p : Prog (WorkerInterface m r) (Frame m r) WorkerStep) (w : Room m r)
    (h : Log m r) (hrun : Interleaving w (.stepping h₀ s₀ h p)) : Interleaving (Room.run t p w h).1
      (.stepping h₀ s₀ (Room.run t p w h).2.1 (.done (Room.run t p w h).2.2.1 (Room.run t p w h).2.2.2)) := by
  induction p generalizing w h with
  | done => exact hrun
  | call s op k ih => exact ih _ _ _ (hrun.called (w.answer_does t op))
  | emit s out next ih => exact ih _ _ hrun.emitted

/-- A step that answers no command is delivered as it is. -/
theorem Interleaving.unanswered {progress : StepProgress}
    (hrun : Interleaving w (.stepping h₀ s₀ h (.done s (.continue progress)))) (hresult : progress.commandResult = none) :
    Interleaving w (.delivered h s progress) := by
  refine @Interleaving.delivered _ _ _ _ _ _ _ _ w.receiver [] hrun ?_
  unfold CommandReceiver.deliverProgress
  rw [hresult]

/-- After a step that rests the loop waits. -/
theorem Interleaving.rests {step : WorkerStep} (hrun : Interleaving w (.stepping h₀ s₀ h (.done s step)))
    (hrests : step.rests = true) : Interleaving w (.waiting h s .activity) := by
  cases step with
  | «continue» progress =>
    obtain ⟨hresult, hrequest⟩ := Bool.and_eq_true_iff.1 hrests
    have hdelivered := hrun.unanswered (Option.isNone_iff_eq_none.1 hresult)
    exact hdelivered.waits (t := .ZERO) (beq_iff_eq.1 hrequest)
  | closed => cases hrests
  | failed => cases hrests

/-- A client has queued a command for a worker that sleeps, and will notify it. -/
def sampleRoom : Room .pro .direct := ⟨some ⟨.pair sampleTimeout, 0⟩, ⟨none⟩, .running, [], [], false, 1⟩

theorem no_lost_wakeup_queued : ∃ h s, Interleaving sampleRoom (.waiting h s .activity) ∧ s.waits = false ∧
    (sampleRoom.activity = true ∨ 0 < sampleRoom.notifying) := by
  have hopened : Interleaving .empty (.step sampleDirect.openLog sampleDirect.start) := .opened (.direct _ _) rfl rfl
  have hstepped := hopened.ran .ZERO _ _ _
  have hrests : (Room.run .ZERO (stepRuntime sampleDirect.start) .empty sampleDirect.openLog).2.2.2.rests = true := by
    decide +kernel
  have hempty : (Room.run .ZERO (stepRuntime sampleDirect.start) .empty sampleDirect.openLog).1 = .empty := by
    rfl
  rw [hempty] at hstepped
  have hslept := hstepped.rests hrests
  have hqueued : Interleaving sampleRoom (.waiting _ _ .activity) :=
    hslept.others (@Room.Others.enqueued _ _ _ ⟨.pair sampleTimeout, 0⟩ _ rfl)
  have hidle := hqueued.knows.2.1
  exact ⟨_, _, hqueued, hidle.symm, no_lost_wakeup hqueued (.inr (.inl ⟨rfl, hidle.symm⟩))⟩

end Swbt
