import Mathlib.Data.List.Forall2
import Swbt.Runtime.Occasions
import Swbt.Runtime.Polling
import Swbt.Runtime.Projection
/-!
# The events of the transport

Each event that a step polls is handled once, in its turn, before anything the
step does by itself, and only in the session it was polled in.
-/

set_option autoImplicit false

open Effects

namespace Swbt

variable {m : ControllerKind} {r : ReportingKind} {h h₀ h₁ h' before : Log m r} {s s' f g : Frame m r} {e : LogEvent m r}

/-! ## In the order of arrival -/

theorem Log.arrivals_cons (hpoll : pollEvent e = false) : Log.arrivals (e :: h) = h.arrivals := by
  change Log.arrivals ([e] ++ h) = _
  rw [Log.arrivals_append]
  unfold Log.arrivals
  simp [polledBy_of_poll hpoll]

theorem Log.outcomes_cons : Log.outcomes (e :: h) = h.outcomes ++ outcomeOf e := by
  change Log.outcomes ([e] ++ h) = _
  rw [Log.outcomes_append]
  unfold Log.outcomes
  simp

theorem outcomeOf_poll (hpoll : pollEvent e = true) : outcomeOf e = [] := by
  rcases e with ⟨s, op, ans⟩ | ⟨s, out⟩
  · rfl
  · cases hpoll

/-- The arrivals the step loop has come to are those it has handled, in turn. -/
theorem Polls.inOrder {rest : List Arrival} (hpolls : Polls h rest) :
    ∃ done, h.arrivals = done ++ rest ∧ List.Forall₂ Arrival.Becomes done h.outcomes := by
  -- What was done with grows where an event is handled, and what is left where a poll returns.
  induction hpolls with
  | start => exact ⟨[], rfl, .nil⟩
  | polled hpolls hpoll ih =>
    rename_i h e
    obtain ⟨done, harrivals, hdone⟩ := ih
    refine ⟨done, ?_, ?_⟩
    · change Log.arrivals ([e] ++ h) = _
      rw [Log.arrivals_append, harrivals, List.append_nil]
      simp [Log.arrivals]
    · rw [Log.outcomes_cons, outcomeOf_poll hpoll, List.append_nil]
      exact hdone
  | handled hpolls hbecomes hhandled hduring ih =>
    rename_i h during arrival rest taken f g answer
    obtain ⟨done, harrivals, hdone⟩ := ih
    have hasides : ∀ e ∈ during, Aside e := fun e hmem => (hduring e hmem).toAside
    refine ⟨done ++ [arrival], ?_, ?_⟩
    · rw [Log.arrivals_cons rfl, Log.arrivals_append, Log.arrivals_asides hasides, Log.arrivals_cons rfl, harrivals]
      simp
    · rw [Log.outcomes_cons, Log.outcomes_append, Log.outcomes_asides hasides, Log.outcomes_cons]
      simp only [outcomeOf, List.append_nil]
      exact List.rel_append hdone (.cons hbecomes .nil)
  | driven hpolls hadded ih =>
    rename_i h added rest
    obtain ⟨done, harrivals, hdone⟩ := ih
    have hasides : ∀ e ∈ added, Aside e := fun e hmem => (hadded e hmem).toAside
    refine ⟨done, ?_, ?_⟩
    · rw [Log.arrivals_append, Log.arrivals_asides hasides, List.append_nil, harrivals]
    · rw [Log.outcomes_append, Log.outcomes_asides hasides, List.append_nil]
      exact hdone

/-! ## Each event by itself -/

/-- In the log `h` the worker comes to an event, which becomes `taken`, handles
it and goes on with a check for a shutdown. -/
def Treated (h : Log m r) (f : Frame m r) (taken : Option SessionEvent) (before : Log m r) : Prop :=
  ∃ during g answer, .call g Op.takeShutdown answer :: (during ++ .emit f (.processed taken) :: before) <:+ h ∧
    Handled f taken during g ∧ ∀ e ∈ during, Handling e

theorem Treated.later {taken : Option SessionEvent} (htreated : Treated h f taken before) (hsuffix : h <:+ h') :
    Treated h' f taken before := by
  obtain ⟨during, g, answer, hbefore, hhandled⟩ := htreated
  exact ⟨during, g, answer, hbefore.trans hsuffix, hhandled⟩

theorem not_aside (taken : Option SessionEvent) : ¬ Aside (.emit f (.processed taken) : LogEvent m r) :=
  fun haside => nomatch haside.outcome

theorem Polls.treated {rest : List Arrival} {taken : Option SessionEvent} (hpolls : Polls h rest)
    (hsuffix : .emit f (.processed taken) :: before <:+ h) : Treated h f taken before := by
  induction hpolls with
  | start => cases List.suffix_nil.1 hsuffix
  | polled hpolls hpoll ih =>
    rcases List.suffix_cons_iff.1 hsuffix with heq | hsuffix
    · cases heq
      cases hpoll
    · exact (ih hsuffix).later (List.suffix_cons _ _)
  | handled hpolls hbecomes hhandled hduring ih =>
    rename_i h during arrival rest taken' f' g answer
    rcases List.suffix_cons_iff.1 hsuffix with heq | hsuffix
    · cases heq
    · have hadds : Adds Aside (.emit f' (.processed taken') :: h) (during ++ .emit f' (.processed taken') :: h) :=
        ⟨during, rfl, fun e hmem => (hduring e hmem).toAside⟩
      rcases List.suffix_cons_iff.1 (hadds.before hsuffix (not_aside taken)) with heq | hsuffix
      · cases heq
        exact ⟨during, g, answer, List.suffix_refl _, hhandled, hduring⟩
      · refine (ih hsuffix).later ?_
        exact (List.suffix_cons _ _).trans (hadds.suffix.trans (List.suffix_cons _ _))
  | driven hpolls hadded ih =>
    rename_i h added rest
    have hadds : Adds Aside h (added ++ h) := ⟨added, rfl, fun e hmem => (hadded e hmem).toAside⟩
    exact (ih (hadds.before hsuffix (not_aside taken))).later hadds.suffix

/-! ## What a step does by itself -/

/-- After `before` the worker asks for send capacity, as an automatic attempt
does, or offers a report that falls due. -/
def AutomaticOrRelease (before : Log m r) (e : LogEvent m r) : Prop :=
  asksEvent e = true ∨ offersReport e = true ∧ DueSend e before

theorem Polls.quiet {rest : List Arrival} (hpolls : Polls h rest) : ∀ e ∈ h, asksEvent e = false ∧ readyReport e = false := by
  induction hpolls with
  | start => exact fun _ hmem => nomatch hmem
  | polled hpolls hpoll ih =>
    rename_i h e
    refine List.forall_mem_cons.2 ⟨?_, ih⟩
    rcases e with ⟨s, op, ans⟩ | ⟨s, out⟩
    · cases op with
      | poll timeout => exact ⟨rfl, rfl⟩
      | _ => cases hpoll
    · cases hpoll
  | handled hpolls hbecomes hhandled hduring ih =>
    refine List.forall_mem_cons.2 ⟨⟨rfl, rfl⟩, List.forall_mem_append.2 ⟨?_, List.forall_mem_cons.2 ⟨⟨rfl, rfl⟩, ih⟩⟩⟩
    exact fun e hmem => ⟨(hduring e hmem).asks, (hduring e hmem).report⟩
  | driven hpolls hadded ih =>
    exact List.forall_mem_append.2 ⟨fun e hmem => ⟨(hadded e hmem).asks, (hadded e hmem).report⟩, ih⟩

/-- Up to the last of its polls a step does nothing by itself. -/
theorem Polls.unforced {rest : List Arrival} {opening : Log m r} (hpolls : Polls h rest)
    (hopening : ∀ e ∈ opening, Opening e) :
    Always (fun e before => ¬ AutomaticOrRelease before e) (h ++ opening) := by
  have hasks : ∀ e ∈ h ++ opening, asksEvent e = false := by
    refine List.forall_mem_append.2 ⟨fun e hmem => (hpolls.quiet e hmem).1, fun e hmem => (hopening e hmem).asks⟩
  -- only the command of a step reports in a Ready session, and it is taken with no tap pending
  have hreleased : ∀ {e : LogEvent m r} {before : Log m r} {g : Frame m r} {t : Duration} {tap : Tap m},
      e :: before <:+ h ++ opening → offersReport e = true → e.state.lifecycle = ⟨.ready⟩ →
        .call g Op.now t ∈ before → g.reporting.tap ≠ some tap := by
    intro e before g t tap hsuffix hoffers hready hread htap
    have hadds : Adds (fun e => readyReport e = false) opening (h ++ opening) :=
      ⟨h, rfl, fun e hmem => (hpolls.quiet e hmem).2⟩
    have hreport : readyReport e = true := by
      unfold readyReport
      rw [hoffers, hready]
      rfl
    have hbefore : before <:+ opening := by
      refine (List.suffix_cons e before).trans (hadds.before hsuffix ?_)
      rw [hreport]
      exact Bool.noConfusion
    have hunpressed : g.reporting.hasPending = false := (hopening _ (hbefore.subset hread)).unpressed
    rw [Reporting.hasPending_eq, htap] at hunpressed
    cases hunpressed
  refine always_iff.2 ?_
  rintro e before hsuffix (hasked | ⟨hoffers, hdue⟩)
  · rw [hasks e (hsuffix.subset List.mem_cons_self)] at hasked
    cases hasked
  · cases hdue with
    | automatic hreports => exact nomatch hasks _ (hsuffix.subset (List.mem_cons_of_mem _ List.mem_cons_self))
    | releasedPeriodic hr hready htap hdue hreports =>
      exact hreleased hsuffix hoffers hready (List.mem_cons_of_mem _ List.mem_cons_self) htap
    | releasedDirect hr hready htap hdue hreports => exact hreleased hsuffix hoffers hready List.mem_cons_self htap

/-! ## Replies -/

/-- The reply that an event the step loop has come to calls for. -/
def owedReply : LogEvent m r → Option (List UInt8)
  | .emit f (.processed (some ⟨_, .hidOutput _ raw⟩)) =>
    match parseOutputReport raw with
    | .ok (.subcommand _ _ request) =>
      (f.sender.prepareReply f.protocol request f.input).toOption.map PreparedOutputAction.bytes
    | _ => none
  | _ => none

/-- The replies to the reports that the step loop has come to, in their order. -/
def Log.owedReplies (h : Log m r) : List (List UInt8) := h.reverse.filterMap owedReply

theorem Log.owedReplies_append (after before : Log m r) :
    Log.owedReplies (after ++ before) = before.owedReplies ++ after.owedReplies := by
  unfold Log.owedReplies
  rw [List.reverse_append, List.filterMap_append]

theorem Log.owedReplies_cons : Log.owedReplies (e :: h) = h.owedReplies ++ (owedReply e).toList := by
  unfold Log.owedReplies
  cases howed : owedReply e <;> simp [howed]

theorem Aside.owed (haside : Aside e) : owedReply e = none := by
  unfold owedReply
  split
  · cases haside.outcome
  · rfl

theorem Log.owedReplies_asides (hall : ∀ e ∈ h, Aside e) : h.owedReplies = [] := by
  refine List.filterMap_eq_nil_iff.2 ?_
  intro e hmem
  exact (hall e (List.mem_reverse.1 hmem)).owed

theorem Log.replies_sends (h : Log m r) : h.replies = h.sends.filter fun payload => payload.head? = some 0x21 := by
  unfold Log.replies Log.sends
  rw [List.filter_filterMap]
  rfl

/-- An event is answered with the reply it calls for and no other. -/
theorem Handled.replies {taken : Option SessionEvent} {during : Log m r} (hhandled : Handled f taken during g) :
    during.replies = (owedReply (.emit f (.processed taken))).toList := by
  rw [Log.replies_sends]
  cases hhandled with
  | dropped => rfl
  | replied hparse hprepare hsends herrors =>
    rw [hsends, owedReply, hparse]
    dsimp only
    rw [hprepare]
    simp [Except.toOption, (prepareReply_spec hprepare).head]
  | unprepared hparse hprepare hsends herrors =>
    rw [hsends, owedReply, hparse]
    dsimp only
    rw [hprepare]
    rfl
  | rumble hparse hsends herrors =>
    rw [hsends, owedReply, hparse]
    rfl
  | malformed hparse hsends herrors =>
    rw [hsends, owedReply, hparse]
    rfl
  | other hother hsends =>
    rw [hsends]
    unfold owedReply
    split
    · rename_i heq
      cases heq
      exact absurd rfl (hother _ _)
    · rfl

theorem Polls.replies {rest : List Arrival} (hpolls : Polls h rest) : h.replies = h.owedReplies := by
  induction hpolls with
  | start => rfl
  | polled hpolls hpoll ih =>
    rename_i h e
    obtain ⟨hreply, howed⟩ : replyOffered e = none ∧ owedReply e = none := by
      rcases e with ⟨s, op, ans⟩ | ⟨s, out⟩
      · cases op with
        | poll timeout => exact ⟨rfl, rfl⟩
        | _ => cases hpoll
      · cases hpoll
    rw [Log.replies_cons, Log.owedReplies_cons, ih, hreply, howed]
  | handled hpolls hbecomes hhandled hduring ih =>
    rename_i h during arrival rest taken f g answer
    have hasides : during.owedReplies = [] := Log.owedReplies_asides fun e hmem => (hduring e hmem).toAside
    have hcome : replyOffered (.emit f (.processed taken) : LogEvent m r) = none := rfl
    have hcheck : replyOffered (.call g Op.takeShutdown answer : LogEvent m r) = none ∧
        owedReply (.call g Op.takeShutdown answer : LogEvent m r) = none := ⟨rfl, rfl⟩
    rw [Log.replies_cons, Log.replies_append, Log.replies_cons, Log.owedReplies_cons, Log.owedReplies_append,
      Log.owedReplies_cons, ih, hasides, hhandled.replies, hcome, hcheck.1, hcheck.2]
    simp
  | driven hpolls hadded ih =>
    rename_i h added rest
    have hreplies : added.replies = [] := Log.replies_unanswering fun e hmem => (hadded e hmem).toUnanswering
    have howed : added.owedReplies = [] := Log.owedReplies_asides fun e hmem => (hadded e hmem).toAside
    rw [Log.replies_append, Log.owedReplies_append, hreplies, howed, ih]

/-! ## While a session is live -/

/-- The session a status call leaves live, if it says so. -/
def sessionChange : LogEvent m r → Option (Option ConnectionSessionId)
  | .emit _ (.status (.beginSession id _ _)) => some (some id)
  | .emit _ (.status (.endSession _ _)) => some none
  | _ => none

/-- The session that has begun last, unless it has ended. -/
def Log.live : Log m r → Option ConnectionSessionId
  | [] => none
  | e :: h => (sessionChange e).getD (live h)

theorem Log.live_unbegun {between : Log m r} (hended : sessionChange e = some none)
    (hbetween : ∀ e ∈ between, begunSession e = none) : Log.live (between ++ e :: before) = none := by
  induction between with
  | nil =>
    change (sessionChange e).getD _ = none
    rw [hended]
    rfl
  | cons e' between ih =>
    have hlive := ih fun e hmem => hbetween e (List.mem_cons_of_mem _ hmem)
    have hunbegun := hbetween e' List.mem_cons_self
    change (sessionChange e').getD (Log.live (between ++ e :: before)) = none
    rw [hlive]
    unfold sessionChange
    split
    · cases hunbegun
    · rfl
    · rfl

theorem Publish.live (hpublish : Publish h s h' s') (hlive : h.live = s.sessions.current) :
    h'.live = s'.sessions.current := by
  cases hpublish with
  | keep hshown => exact hlive.trans hshown.current.symm
  | silent hstatus haccepted =>
    rename_i e
    have hunchanged : sessionChange e = none := by
      unfold sessionChange
      split
      · cases hstatus
      · cases hstatus
      · rfl
    change (sessionChange e).getD h.live = _
    rw [hunchanged]
    exact hlive
  | accepted hlive' hhead => exact hlive
  | committed => exact hlive
  | begun hclosed => rfl
  | linked hlive' => exact hlive
  | noticed hlive' => exact hlive
  | entered hlive' hframe =>
    rw [hframe]
    exact hlive
  | ended hlive' hlifecycle => rfl

theorem Point.live (hpoint : Point h s) : h.live = s.sessions.current := by
  obtain ⟨h₀, s₀, hrun, hpath⟩ := hpoint.begun
  obtain ⟨core, hnew, hdeeds⟩ := hrun.deeds
  have hfresh : Steady s₀ s₀.fresh := .core rfl
  have hall := Deeds.publishes ((hdeeds.steady hfresh).trans hpath.deeds)
  refine Chain.inv (P := fun h s => Log.live h = s.sessions.current) hall ?_ fun hpublish hlive => hpublish.live hlive
  exact hnew.isOpen.current.symm

theorem Trace.live {event : SessionEvent} (htrace : Trace h s)
    (hsuffix : .emit f (.processed (some event)) :: before <:+ h) : before.live = some event.sessionId := by
  have hmet := htrace.met hsuffix
  exact hmet.point.live.trans hmet.current

/-! ## The events of a step -/

/-- The events a step polls are handled in their order, the replies it offers
are those to the reports among them, and each comes before the step does
anything by itself. -/
theorem StepLog.inOrder {step : WorkerStep} (hlog : StepLog h h' step) :
    ∃ added, h' = added ++ h ∧
      (step.goesOn = true → List.Forall₂ Arrival.Becomes (Log.arrivals added) (Log.outcomes added)) ∧
      Log.replies added = Log.owedReplies added ∧
      ∀ f taken before, .emit f (.processed taken) :: before <:+ added → Treated added f taken before ∧
        Always (fun e before => ¬ AutomaticOrRelease before e) before := by
  obtain ⟨ending, polls, opening, rest, rfl, hpolls, hopening, hending, hrest⟩ := hlog.parts
  have hopened : ∀ e ∈ opening, Aside e := fun e hmem => (hopening e hmem).toAside
  have hended : ∀ e ∈ ending, Aside e := fun e hmem => (hending e hmem).toAside
  refine ⟨ending ++ (polls ++ opening), by simp, ?_, ?_, ?_⟩
  · intro hgoes
    obtain ⟨done, harrivals, hdone⟩ := hpolls.inOrder
    rw [hrest hgoes, List.append_nil] at harrivals
    rw [Log.arrivals_append, Log.arrivals_append, Log.arrivals_asides hopened, Log.arrivals_asides hended, harrivals]
    rw [Log.outcomes_append, Log.outcomes_append, Log.outcomes_asides hopened, Log.outcomes_asides hended]
    simpa using hdone
  · have hbefore : opening.replies = [] := Log.replies_unanswering fun e hmem => (hopening e hmem).toUnanswering
    rw [Log.replies_append, Log.replies_append, hbefore, Log.replies_unanswering hending, hpolls.replies]
    rw [Log.owedReplies_append, Log.owedReplies_append, Log.owedReplies_asides hopened, Log.owedReplies_asides hended]
  · intro f taken before hsuffix
    have hlast : Adds Aside (polls ++ opening) (ending ++ (polls ++ opening)) := ⟨ending, rfl, hended⟩
    have hpolled := hlast.before hsuffix (not_aside taken)
    obtain ⟨between, rfl, hbetween⟩ := suffix_of_append hpolled fun hmem => not_aside taken (hopened _ hmem)
    obtain ⟨during, g, answer, hbefore, hhandled, hduring⟩ := hpolls.treated hbetween
    constructor
    · refine ⟨during, g, answer, ?_, hhandled, hduring⟩
      obtain ⟨later, hlater⟩ := hbefore
      refine ⟨ending ++ later, ?_⟩
      rw [← hlater]
      simp
    · exact (hpolls.unforced hopening).suffix ((List.suffix_cons _ _).trans hpolled)

/-- The events of the transport are handled once each in the order of their
arrival, an output report with one reply or protocol error before anything the
step sends by itself, and none of them outside its session. The replies of the
step are those to its reports, and any other send has an occasion of its own. -/
theorem events_processed {step : WorkerStep} (hrun : Run h s) (hexec : Prog.Exec (stepRuntime s) h h' s' step) :
    ∃ added, h' = added ++ h ∧
      (step.goesOn = true → List.Forall₂ Arrival.Becomes (Log.arrivals added) (Log.outcomes added)) ∧
      Log.replies added = Log.owedReplies added ∧
      (∀ e before, e :: before <:+ h' → offersReport e = true → Occasion e before) ∧
      (∀ f taken before, .emit f (.processed taken) :: before <:+ added → Treated added f taken before ∧
        Always (fun e before => ¬ AutomaticOrRelease before e) before) ∧
      (∀ f event before, .emit f (.processed (some event)) :: before <:+ h' → Log.live before = some event.sessionId) ∧
      ∀ f taken between ended before, sessionChange ended = some none → (∀ e ∈ between, begunSession e = none) →
        .emit f (.processed taken) :: (between ++ ended :: before) <:+ h' → taken = none := by
  obtain ⟨added, hadded, horder, hreplies, htreated⟩ := (hexec.post (stepRuntime_log h s hrun.coherent)).inOrder
  have htrace : Trace h' s' := .stepped hrun hexec
  refine ⟨added, hadded, horder, hreplies, always_iff.1 htrace.occasioned, htreated, fun f event before => htrace.live, ?_⟩
  intro f taken between ended before hended hbetween hsuffix
  cases taken with
  | none => rfl
  | some event =>
    have hlive := htrace.live hsuffix
    rw [Log.live_unbegun hended hbetween] at hlive
    cases hlive

/-- The step that makes the sample worker ready. -/
def sampleReadied : Log .pro .direct × Frame .pro .direct × WorkerStep :=
  playStep (scripted .ZERO (fun _ => none) fun n => if n = 1 then [.connected, .hidChannelOpened .control,
    .hidChannelOpened .interrupt, sampleSubcommand 0x03 0x30, sampleSubcommand 0x40 0x01, sampleSubcommand 0x30 0x01]
    else []) samplePairing

theorem sampleReadied_exec : Prog.Exec (stepRuntime samplePairing.2) samplePairing.1 sampleReadied.1
    sampleReadied.2.1 sampleReadied.2.2 := by
  unfold sampleReadied
  exact playStep_exec _ _

/-- The step comes to six events, three of them subcommands that it replies to. -/
theorem events_processed_sample : ∃ added, sampleReadied.1 = added ++ samplePairing.1 ∧
    List.Forall₂ Arrival.Becomes (Log.arrivals added) (Log.outcomes added) ∧ (Log.outcomes added).length = 6 ∧
    Log.replies added = Log.owedReplies added ∧ (Log.replies added).length = 3 := by
  obtain ⟨added, hadded, horder, hreplies, -⟩ := events_processed samplePairing_run sampleReadied_exec
  have houtcomes : (Log.outcomes sampleReadied.1).length = 6 := by decide +kernel
  have hsent : (Log.replies sampleReadied.1).length = 3 := by decide +kernel
  have hearlier : samplePairing.1.outcomes.length = 0 ∧ samplePairing.1.replies.length = 0 := by decide +kernel
  rw [hadded, Log.outcomes_append, List.length_append, hearlier.1] at houtcomes
  rw [hadded, Log.replies_append, List.length_append, hearlier.2] at hsent
  exact ⟨added, hadded, horder (by decide +kernel), by omega, hreplies, by omega⟩

end Swbt
