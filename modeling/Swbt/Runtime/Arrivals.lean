import Swbt.Runtime.Events
import Swbt.Runtime.Interleaving
/-!
# From the transport's queue to the worker

The transport queues events whenever it likes, and never drops one because a
session has ended. Between two steps every event is still queued or was polled,
and what was polled was come to once, in the session that was live then.
-/

set_option autoImplicit false

open Effects

namespace Swbt

variable {m : ControllerKind} {r : ReportingKind} {h h₀ h' before : Log m r} {s s₀ s' f : Frame m r} {e : LogEvent m r}
  {w w' : Room m r}

def Unpolled (e : LogEvent m r) : Prop := pollEvent e = false

/-! ## Polls -/

theorem Sent.unpolled {bytes : List UInt8} {candidate : SenderCommit} {result : TransportResult Unit}
    (hsent : Sent bytes candidate h s h' s' result) : Adds Unpolled h h' := by
  cases hsent with
  | refused error => exact .single rfl
  | accepted => exact .cons (.single rfl) rfl

theorem InputSent.unpolled {state : InputState m} {nowNs : UInt64} {result : TransportResult Unit}
    (hsent : InputSent state nowNs h s h' s' result) : Adds Unpolled h h' := Sent.unpolled hsent

theorem Adds.prefixed {Q : LogEvent m r → Prop} (hadds : Adds Q (e :: h) h') (he : Q e) : Adds Q h h' :=
  .trans (.single he) hadds

/-- A deed polls once, in its frame, or not at all. -/
theorem Deed.polls (hdeed : Deed h s h' s') :
    (∃ e, h' = e :: h ∧ e.state = s ∧ pollEvent e = true) ∨ Adds Unpolled h h' := by
  cases hdeed with
  | quiet hstate hquiet =>
    rename_i e
    cases hpoll : pollEvent e with
    | true => exact .inl ⟨e, rfl, hstate, hpoll⟩
    | false => exact .inr (.single hpoll)
  | internal hsteady => exact .inr .refl
  | scheduled hlive hclock hstart => exact .inr .refl
  | begun hopen hclosed => exact .inr (.cons (.cons (.single rfl) rfl) rfl)
  | replied hlive hneutral hrequest hprepare hsent hsteady => exact .inr (hsent.unpolled.cons rfl)
  | reported hlive hneutral hsent => exact .inr hsent.unpolled
  | automatic hlive hneutral hclock hpolicy hticks hsent => exact .inr (Adds.prefixed hsent.unpolled rfl)
  | delivered hr hlive hready hsent =>
    cases hsent with
    | refused hsent => exact .inr (InputSent.unpolled hsent)
    | accepted hsent => exact .inr ((InputSent.unpolled hsent).cons rfl)
  | taken hcommand htap hidle => exact .inr (.single rfl)
  | linked hlive => exact .inr (.single rfl)
  | noticed hlive => exact .inr (.single rfl)
  | committed hr hidle => exact .inr (.single rfl)
  | skipped hlive hclock hpolicy hticks => exact .inr (.single rfl)
  | readied hlive hconnecting hneutral => exact .inr (.single rfl)
  | ended hlive hlifecycle => exact .inr (.single rfl)

/-- A poll finds the live session in its frame. -/
def PollsLive (e : LogEvent m r) (before : Log m r) : Prop :=
  pollEvent e = true → before.live = e.state.sessions.current

theorem Run.pollsLive (hrun : Run h s) : Always PollsLive h := by
  obtain ⟨core, hnew, hdeeds⟩ := hrun.deeds
  suffices hall : Log.live h = s.sessions.current ∧ Always PollsLive h from hall.2
  -- A deed that polls leaves nothing before the poll, which so sees the frame of the deed.
  refine Chain.inv (P := fun h s => Log.live h = s.sessions.current ∧ Always PollsLive h) hdeeds ?_ ?_
  · exact ⟨hnew.isOpen.current.symm, nofun, trivial⟩
  · rintro h s h' s' hdeed ⟨hlive, hall⟩
    refine ⟨?_, ?_⟩
    · exact Chain.inv (P := fun h s => Log.live h = s.sessions.current) hdeed.publishes hlive
        fun hpublish hlive => hpublish.live hlive
    · rcases hdeed.polls with ⟨e, rfl, rfl, -⟩ | hadds
      · exact ⟨fun _ => hlive, hall⟩
      · refine Adds.always hadds ?_ hall
        intro e before hunpolled hpolled
        rw [hunpolled] at hpolled
        cases hpolled

/-! ## The queue -/

/-- A poll that has failed, with whatever it had taken from the queue. -/
def failedPoll : LogEvent m r → Bool
  | .call _ (.poll _) (.error _) => true
  | _ => false

theorem failedPoll_fatal (hfatal : fatalError e = none) : failedPoll e = false := by
  unfold failedPoll
  split
  · cases hfatal
  · rfl

/-- A worker that goes on has seen no poll fail. -/
theorem Run.unfailed (hrun : Run h s) : ∀ e ∈ h, failedPoll e = false :=
  fun e hmem => failedPoll_fatal (List.filterMap_eq_nil_iff.1 hrun.fatals e hmem)

/-- What the polls of a log have returned, followed by what is queued, is all that has arrived. -/
def Room.Accounts (w : Room m r) (h : Log m r) : Prop := h.arrivals.map Arrival.event ++ w.events = w.arrived

theorem Room.Accounts.cons (haccounts : w.Accounts h) (hpoll : pollEvent e = false) : w.Accounts (e :: h) := by
  unfold Room.Accounts
  rw [Log.arrivals_cons hpoll]
  exact haccounts

theorem Log.arrivals_polled {timeout : Duration} {batch : List TransportEvent} :
    (Log.arrivals (.call s (.poll timeout) (.ok batch) :: h)).map Arrival.event = h.arrivals.map Arrival.event ++ batch := by
  change (Log.arrivals ([_] ++ h)).map _ = _
  rw [Log.arrivals_append, List.map_append]
  unfold Log.arrivals
  simp [polledBy, Function.comp_def]

/-- A poll takes from the front of the queue what it returns. -/
theorem Room.Does.accounts {op : Op} {ans : Op.Ans m r op} (hdoes : w.Does op ans w') (haccounts : w.Accounts h)
    (hsucceeds : failedPoll (.call s op ans) = false) : w'.Accounts (.call s op ans :: h) := by
  cases hdoes with
  | takeShutdown => exact haccounts.cons rfl
  | nextCommand => exact haccounts.cons rfl
  | pollFailed hqueue => cases hsucceeds
  | polled hqueue hempty =>
    unfold Room.Accounts
    rw [Log.arrivals_polled, List.append_assoc]
    dsimp only
    rw [← hqueue]
    exact haccounts
  | other hshutdown hcommand hpoll =>
    refine haccounts.cons ?_
    cases op with
    | poll timeout => exact absurd rfl (hpoll timeout)
    | _ => rfl

theorem Room.Others.accounts (hothers : w.Others w') (haccounts : w.Accounts h) : w'.Accounts h := by
  cases hothers with
  | enqueued haccepted => exact haccounts
  | requested request => exact haccounts
  | notified hnotifying => exact haccounts
  | arrived event =>
    unfold Room.Accounts at haccounts ⊢
    rw [← haccounts, List.append_assoc]

/-- What the worker has logged by now. -/
def LoopPhase.log : LoopPhase m r → Log m r
  | .stepping _ _ h _ => h
  | .delivered h _ _ => h
  | .waiting h _ _ => h

/-- No interleaving loses an event, makes one up or changes their order. -/
theorem Interleaving.accounts {phase : LoopPhase m r} (hrun : Interleaving w phase)
    (hpolls : ∀ e ∈ phase.log, failedPoll e = false) : w.Accounts phase.log := by
  induction hrun with
  | opened hnew hidle harrived => exact harrived.symm
  | others hrun hothers ih => exact hothers.accounts (ih hpolls)
  | called hrun hdoes ih =>
    obtain ⟨hpoll, hpolls⟩ := List.forall_mem_cons.1 hpolls
    exact hdoes.accounts (ih hpolls) hpoll
  | emitted hrun ih =>
    obtain ⟨-, hpolls⟩ := List.forall_mem_cons.1 hpolls
    exact (ih hpolls).cons rfl
  | delivered hrun hdelivered ih => exact ih hpolls
  | atOnce hrun hrequest ih => exact ih hpolls
  | waits hrun hrequest ih => exact ih hpolls
  | woken hrun hactivity ih => exact ih hpolls
  | expired hrun ih => exact ih hpolls

/-! ## What becomes of an event -/

theorem Run.arrivals_becomes (hrun : Run h s) : List.Forall₂ Arrival.Becomes h.arrivals h.outcomes := by
  induction hrun with
  | opened hnew => exact .nil
  | step hrun hexec ih =>
    obtain ⟨added, rfl, horder, -⟩ := (hexec.post (stepRuntime_log _ _ hrun.coherent)).inOrder
    rw [Log.arrivals_append, Log.outcomes_append]
    exact List.rel_append ih (horder rfl)

/-- Between two steps of an interleaving. -/
inductive LoopPhase.Between (h : Log m r) (s : Frame m r) : LoopPhase m r → Prop
  | delivered {progress : StepProgress} : Between h s (.delivered h s progress)
  | waiting {request : WorkerWaitRequest} : Between h s (.waiting h s request)

/-- Between two steps every event that has ever arrived is still queued, or was
polled in its turn, while the session it is tagged with was live, and came up
once: it was taken if that session was still live, and else dropped. -/
theorem arrivals_accounted {phase : LoopPhase m r} (hrun : Interleaving w phase) (hbetween : phase.Between h s) :
    w.arrived = h.arrivals.map Arrival.event ++ w.events ∧ List.Forall₂ Arrival.Becomes h.arrivals h.outcomes ∧
    (∀ f timeout answer before, .call f (Op.poll timeout) answer :: before <:+ h → Log.live before = f.sessions.current) ∧
    ∀ f event before, .emit f (.processed (some event)) :: before <:+ h → Log.live before = some event.sessionId := by
  have hworker : Run h s ∧ phase.log = h := by
    have hknows := hrun.knows
    cases hbetween with
    | delivered => exact ⟨hknows.1, rfl⟩
    | waiting => exact ⟨hknows.1, rfl⟩
  obtain ⟨hsteps, hlog⟩ := hworker
  refine ⟨?_, hsteps.arrivals_becomes, ?_, fun f event before => (Trace.running hsteps).live⟩
  · have haccounts := hrun.accounts (by rw [hlog]; exact hsteps.unfailed)
    rw [hlog] at haccounts
    exact haccounts.symm
  · intro f timeout answer before hsuffix
    exact always_iff.1 hsteps.pollsLive _ _ hsuffix rfl

/-- A room in which the transport has queued an event before the worker has a session. -/
def sampleEarly : Room .pro .direct := { Room.empty with events := [.connected], arrived := [.connected] }

/-- The worker once it has polled the event. -/
def sampleIdle : Room .pro .direct × Log .pro .direct × Frame .pro .direct × WorkerStep :=
  Room.run .ZERO (stepRuntime sampleDirect.start) sampleEarly sampleDirect.openLog

/-- The room once a client has queued a Pair command, and the transport three events. -/
def sampleVisited : Room .pro .direct where
  commands := some ⟨.pair sampleTimeout, 0⟩
  receiver := ⟨none⟩
  shutdown := .running
  events := [.connected, .hidChannelOpened .control, .hidChannelOpened .interrupt]
  arrived := [.connected, .connected, .hidChannelOpened .control, .hidChannelOpened .interrupt]
  activity := false
  notifying := 3

/-- The worker once it has taken the command and handled the events. -/
def sampleGreeted : Room .pro .direct × Log .pro .direct × Frame .pro .direct × WorkerStep :=
  Room.run .ZERO (stepRuntime sampleIdle.2.2.1) sampleVisited sampleIdle.2.1

theorem sampleVisited_interleaving : Interleaving sampleVisited (.step sampleIdle.2.1 sampleIdle.2.2.1) := by
  have hopened : Interleaving sampleEarly (.step sampleDirect.openLog sampleDirect.start) := .opened (.direct _ _) rfl rfl
  have hrests : sampleIdle.2.2.2.rests = true := by decide +kernel
  have hafter : sampleIdle.1 = { Room.empty with arrived := [.connected] } := by rfl
  have hstepped : Interleaving sampleIdle.1 (.stepping sampleDirect.openLog sampleDirect.start sampleIdle.2.1
      (.done sampleIdle.2.2.1 sampleIdle.2.2.2)) := by
    unfold sampleIdle
    exact hopened.ran .ZERO _ _ _
  have hslept := hstepped.rests hrests
  rw [hafter] at hslept
  have hasked := hslept.others (@Room.Others.enqueued _ _ _ ⟨.pair sampleTimeout, 0⟩ _ rfl)
  have hlinked := (hasked.others (.arrived .connected)).others (.arrived (.hidChannelOpened .control))
  have hqueued := hlinked.others (.arrived (.hidChannelOpened .interrupt))
  exact (hqueued.others (@Room.Others.notified _ _ _ 3 rfl)).woken rfl

theorem sampleGreeted_interleaving : ∃ progress,
    Interleaving sampleGreeted.1 (.delivered sampleGreeted.2.1 sampleGreeted.2.2.1 progress) := by
  have hended : Interleaving sampleGreeted.1 (.stepping sampleIdle.2.1 sampleIdle.2.2.1 sampleGreeted.2.1
      (.done sampleGreeted.2.2.1 sampleGreeted.2.2.2)) := by
    unfold sampleGreeted
    exact sampleVisited_interleaving.ran .ZERO _ _ _
  have hgoes : sampleGreeted.2.2.2.goesOn = true := by decide +kernel
  have hnone : sampleGreeted.2.2.2.progress.commandResult.isNone = true := by decide +kernel
  rw [WorkerStep.goesOn_eq hgoes] at hended
  exact ⟨_, hended.unanswered (Option.isNone_iff_eq_none.1 hnone)⟩

/-- An event that was polled before the session is dropped, those polled in it are taken, and the last one is still
queued. -/
theorem arrivals_accounted_live : ∃ (w : Room .pro .direct) (phase : LoopPhase .pro .direct) (h : Log .pro .direct)
    (s : Frame .pro .direct), Interleaving w phase ∧ phase.Between h s ∧
      w.arrived = h.arrivals.map Arrival.event ++ w.events ∧ w.arrived.length = 5 ∧ w.events.length = 1 ∧
      List.Forall₂ Arrival.Becomes h.arrivals h.outcomes ∧
      h.outcomes.map (fun outcome => outcome.taken.isSome) = [false, true, true, true] := by
  obtain ⟨progress, hgreeted⟩ := sampleGreeted_interleaving
  have hqueued := hgreeted.others (.arrived (sampleSubcommand 0x03 0x30))
  obtain ⟨harrived, hbecomes, -⟩ := arrivals_accounted hqueued .delivered
  refine ⟨_, _, _, _, hqueued, .delivered, harrived, ?_, ?_, hbecomes, ?_⟩
  · decide +kernel
  · decide +kernel
  · decide +kernel

end Swbt
