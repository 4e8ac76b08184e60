import Swbt.Runtime.Handling
/-!
# The polls of a step

A step logs what its command does, then its polls with the events they
returned, then what falls due. `Polls` is the middle part as a grammar: a new
batch is polled for when the last is done with, each event in turn is dropped
or handled, and the connection is driven in between.
-/

set_option autoImplicit false

open Effects

namespace Swbt

variable {m : ControllerKind} {r : ReportingKind} {h h₁ h' base : Log m r} {s s' f g : Frame m r} {e : LogEvent m r}

/-! ## The grammar of the polls -/

/-- What polls log, with the arrivals the step loop has still to come to. -/
inductive Polls : Log m r → List Arrival → Prop
  | start : Polls [] []
  | polled {h : Log m r} {e : LogEvent m r} (hpolls : Polls h []) (hpoll : pollEvent e = true) :
      Polls (e :: h) (polledBy e)
  | handled {h during : Log m r} {arrival : Arrival} {rest : List Arrival} {taken : Option SessionEvent}
      {f g : Frame m r} {answer : Option ShutdownRequest} (hpolls : Polls h (arrival :: rest))
      (hbecomes : arrival.Becomes ⟨f.sessions.current, taken⟩) (hhandled : Handled f taken during g) (hduring : ∀ e ∈ during, Handling e) :
      Polls (.call g Op.takeShutdown answer :: (during ++ .emit f (.processed taken) :: h)) rest
  | driven {h added : Log m r} {rest : List Arrival} (hpolls : Polls h rest) (hadded : ∀ e ∈ added, Interlude e) :
      Polls (added ++ h) rest

/-- After `base` come polls, with these arrivals still to be come to. -/
def Polling (base : Log m r) (rest : List Arrival) (h : Log m r) : Prop := ∃ polls, h = polls ++ base ∧ Polls polls rest

theorem Polling.polled (hpolling : Polling base [] h) (hpoll : pollEvent e = true) :
    Polling base (polledBy e) (e :: h) := by
  obtain ⟨polls, rfl, hpolls⟩ := hpolling
  exact ⟨e :: polls, rfl, hpolls.polled hpoll⟩

/-- The event is done with once the worker checks for a shutdown. -/
theorem Polling.checked {arrival : Arrival} {rest : List Arrival} {taken : Option SessionEvent} {during : Log m r}
    (hpolling : Polling base (arrival :: rest) h) (hbecomes : arrival.Becomes ⟨f.sessions.current, taken⟩) (hhandled : Handled f taken during g)
    (hduring : ∀ e ∈ during, Handling e) (answer : Option ShutdownRequest) :
    Polling base rest (.call g Op.takeShutdown answer :: (during ++ .emit f (.processed taken) :: h)) := by
  obtain ⟨polls, rfl, hpolls⟩ := hpolling
  refine ⟨.call g Op.takeShutdown answer :: (during ++ .emit f (.processed taken) :: polls), by simp, ?_⟩
  exact hpolls.handled hbecomes hhandled hduring

theorem Polling.driven {rest : List Arrival} (hpolling : Polling base rest h) (hadds : Adds Interlude h h') :
    Polling base rest h' := by
  obtain ⟨polls, rfl, hpolls⟩ := hpolling
  obtain ⟨added, rfl, hadded⟩ := hadds
  exact ⟨added ++ polls, (List.append_assoc _ _ _).symm, hpolls.driven hadded⟩

/-- What a phase logs: `P` describes it up to an exit, if there is one, and `Q` if the step goes on. -/
structure Parts (P Q : Log m r → Prop) (h' : Log m r) (s' : Frame m r) (exit : Option WorkerStep) : Prop where
  exits : ∃ h₁, P h₁ ∧ Adds Unanswering h₁ h'
  goes : exit = none → Q h' ∧ s'.Sound
  ends : ∀ step, exit = some step → step.goesOn = false

variable {P Q : Log m r → Prop}

theorem Parts.closed {request : ShutdownRequest} {t : Duration} {step : WorkerStep} {f : Frame m r}
    (hP : P (.call s Op.takeShutdown (some request) :: h))
    (hclose : CloseEffect request t (.call s Op.now t :: .call s Op.takeShutdown (some request) :: h) f h' s' step) :
    Parts P Q h' s' (some step) := by
  refine ⟨⟨_, hP, ?_⟩, nofun, ?_⟩
  · exact (Adds.single ⟨⟨rfl, rfl⟩, rfl⟩).trans hclose.unanswering
  · intro step' hstep
    cases hstep
    cases hclose
    rfl

theorem Parts.mono {P' Q' : Log m r → Prop} {exit : Option WorkerStep} (hparts : Parts P Q h' s' exit)
    (hP : ∀ h, P h → P' h) (hQ : ∀ h, Q h → Q' h) : Parts P' Q' h' s' exit := by
  obtain ⟨h₁, hexits, hasides⟩ := hparts.exits
  refine ⟨⟨h₁, hP h₁ hexits, hasides⟩, fun hnone => ?_, hparts.ends⟩
  obtain ⟨hgoes, hs'⟩ := hparts.goes hnone
  exact ⟨hQ h' hgoes, hs'⟩

theorem Parts.go (hQ : Q h) (hP : P h) (hs : s.Sound) : Parts P Q h s none := by
  refine ⟨⟨h, hP, .refl⟩, fun _ => ⟨hQ, hs⟩, ?_⟩
  rintro step ⟨⟩

/-! ## Checks for a shutdown -/

theorem closeIfRequested_parts (hs : s.Sound) (hP : ∀ answer, P (.call s Op.takeShutdown answer :: h)) :
    Act.wp closeIfRequested h s (Parts P P) := by
  refine wp_closeIfRequested h s hs _ (.go (hP none) (hP none) hs) ?_
  intro request t h' s' step hclose
  exact .closed (hP (some request)) hclose

theorem fail_parts (error : WorkerCoreError) (hs : s.Sound) (hP : P h) :
    Act.wp (fail error) h s fun h' s' step => Parts P Q h' s' (some step) := by
  refine Act.wp_mono (fail_spec error h s fun hpending => hs.unanswered (.inl hpending)) ?_
  intro h' s' step hfail
  refine ⟨⟨h, hP, hfail.unanswering⟩, nofun, ?_⟩
  intro step' hstep
  cases hstep
  cases hfail
  rfl

/-- The check after a phase that has come to `terminal`. -/
theorem afterPhase_parts (terminal : Option WorkerCoreError) (hs : s.Sound)
    (hP : ∀ answer, P (.call s Op.takeShutdown answer :: h)) :
    Act.wp (do
      match ← closeIfRequested with
      | some exit => return some exit
      | none =>
        match terminal with
        | some error => return some (← fail error)
        | none => return none) h s (Parts P P) := by
  rw [Act.wp_bind]
  refine wp_closeIfRequested h s hs _ ?_ ?_
  · cases terminal with
    | none => exact .go (hP none) (hP none) hs
    | some error =>
      dsimp only
      rw [Act.wp_bind]
      exact fail_parts error hs (hP none)
  · intro request t h' s' step hclose
    exact .closed (hP (some request)) hclose

theorem failOrClose_parts (error : WorkerCoreError) (hs : s.Sound)
    (hP : ∀ answer, P (.call s Op.takeShutdown answer :: h)) :
    Act.wp (failOrClose error) h s fun h' s' step => Parts P Q h' s' (some step) := by
  unfold failOrClose
  rw [Act.wp_bind]
  refine wp_closeIfRequested h s hs _ (fail_parts error hs (hP none)) ?_
  intro request t h' s' step hclose
  exact .closed (hP (some request)) hclose

/-! ## Phases -/

theorem drive_parts (h : Log m r) (s : Frame m r) (hs : s.Sound) : Act.wp drive h s (Parts (Adds Interlude h) (Adds Interlude h)) := by
  unfold drive
  simp only [Act.wp_bind, wp_now]
  intro t
  refine Act.wp_mono (driveConnection_spec t _ s hs) ?_
  intro h' s' result heffect
  have hs' := (Move.drive heffect).sound hs
  have hadds : Adds Interlude h h' := by
    refine Adds.trans ?_ (heffect.interlude hs)
    exact .single ⟨⟨⟨rfl, rfl⟩, rfl⟩, rfl, rfl⟩
  cases result with
  | error error =>
    dsimp only
    rw [Act.wp_bind]
    exact failOrClose_parts error hs' fun answer => hadds.cons ⟨⟨⟨rfl, rfl⟩, rfl⟩, rfl, rfl⟩
  | ok actions =>
    simp only [Act.wp_bind, modifyProgress, wp_update]
    have hcount := @Move.progress _ _ h' s' { s'.progress with dueActions := s'.progress.dueActions + actions } rfl
    exact closeIfRequested_parts (hcount.sound hs') fun answer => hadds.cons ⟨⟨⟨rfl, rfl⟩, rfl⟩, rfl, rfl⟩

/-- Some of what was polled may not be come to. -/
def Polled (base h : Log m r) : Prop := ∃ rest, Polling base rest h

theorem topologyDrive_parts {rest : List Arrival} (hpolling : Polling base rest h) (hs : s.Sound) (topologyChanged : Bool) :
    Act.wp (if topologyChanged then drive else pure none) h s (Parts (Polled base) (Polling base rest)) := by
  split
  · refine Act.wp_mono (drive_parts h s hs) ?_
    intro h' s' exit hparts
    exact hparts.mono (fun h₁ hadds => ⟨rest, hpolling.driven hadds⟩) fun h₁ hadds => hpolling.driven hadds
  · exact .go hpolling ⟨rest, hpolling⟩ hs

/-- The next phase goes on where this one leaves the step. -/
theorem wp_parts {P Q R : Log m r → Prop} {x : Worker m r (Option WorkerStep)}
    {f : Option WorkerStep → Worker m r (Option WorkerStep)} (hx : Act.wp x h s (Parts P Q))
    (hexit : ∀ step, f (some step) = pure (some step))
    (hgo : ∀ h' s', Q h' → s'.Sound → Act.wp (f none) h' s' (Parts P R)) : Act.wp (x >>= f) h s (Parts P R) := by
  rw [Act.wp_bind]
  refine Act.wp_mono hx ?_
  intro h' s' exit hparts
  cases exit with
  | none =>
    obtain ⟨hQ, hs'⟩ := hparts.goes rfl
    exact hgo h' s' hQ hs'
  | some step =>
    rw [hexit]
    exact ⟨hparts.exits, nofun, hparts.ends⟩

/-- The step loop goes on after an event that is done with. -/
theorem afterEvent_parts {arrival : Arrival} {rest : List Arrival} {taken : Option SessionEvent} {during : Log m r}
    (hnext : ∀ (h : Log m r) (s : Frame m r), Polling base rest h → s.Sound →
      Act.wp (handleEvents (rest.map Arrival.tag)) h s (Parts (Polled base) (Polling base [])))
    (hpolling : Polling base (arrival :: rest) h) (hbecomes : arrival.Becomes ⟨f.sessions.current, taken⟩) (hhandled : Handled f taken during g)
    (hduring : ∀ e ∈ during, Handling e) (hg : g.Sound) (topologyChanged : Bool) :
    Act.wp (do
      match ← closeIfRequested with
      | some exit => return some exit
      | none =>
        match ← (if topologyChanged then drive else pure none) with
        | some exit => return some exit
        | none => handleEvents (rest.map Arrival.tag)) (during ++ .emit f (.processed taken) :: h) g
      (Parts (Polled base) (Polling base [])) := by
  have hchecked := hpolling.checked hbecomes hhandled hduring
  refine wp_parts (Q := Polling base rest) ?_ (fun _ => rfl) ?_
  · refine Act.wp_mono (closeIfRequested_parts hg hchecked) ?_
    intro h' s' exit hparts
    exact hparts.mono (fun h₁ hpolling => ⟨rest, hpolling⟩) fun h₁ hpolling => hpolling
  · intro h' s' hpolling hs'
    exact wp_parts (topologyDrive_parts hpolling hs' topologyChanged) (fun _ => rfl) hnext

theorem Arrival.becomes_none {arrival : Arrival} (htag : arrival.tag = none) (current : Option ConnectionSessionId) :
    arrival.Becomes ⟨current, none⟩ := by
  unfold Arrival.Becomes
  rw [htag]
  rfl

theorem Arrival.becomes_tag {arrival : Arrival} {event : SessionEvent} (htag : arrival.tag = some event)
    (current : Option ConnectionSessionId) :
    arrival.Becomes ⟨current, if current = some event.sessionId then some event else none⟩ := by
  unfold Arrival.Becomes
  rw [htag]
  by_cases hcurrent : current = some event.sessionId
  · simp [Option.filter_some, hcurrent]
  · simp [Option.filter_some, hcurrent]

theorem handleEvents_parts (arrivals : List Arrival) (h : Log m r) (s : Frame m r) (hpolling : Polling base arrivals h)
    (hs : s.Sound) :
    Act.wp (handleEvents (arrivals.map Arrival.tag)) h s (Parts (Polled base) (Polling base [])) := by
  -- Induction on the arrivals still to be come to.
  induction arrivals generalizing h s with
  | nil => exact .go hpolling ⟨[], hpolling⟩ hs
  | cons arrival rest ih =>
    rw [List.map_cons]
    unfold handleEvents modifyProgress
    rw [Act.wp_bind, wp_update]
    have hcount := @Move.progress _ _ h s { s.progress with hciEvents := s.progress.hciEvents + 1 } rfl
    have hs₁ := hcount.sound hs
    generalize { s with progress := { s.progress with hciEvents := s.progress.hciEvents + 1 } } = s₁ at hs₁ ⊢
    cases htag : arrival.tag with
    | none =>
      dsimp only
      rw [Act.wp_bind, wp_processed, Act.wp_bind, Act.wp_pure]
      exact afterEvent_parts ih hpolling (Arrival.becomes_none htag _) .dropped (by simp) hs₁ false
    | some event =>
      dsimp only
      rw [Act.wp_bind]
      refine Act.wp_mono (handleEvent_handled event h _ hs₁) ?_
      rintro h' s' outcome ⟨heffect, taken, during, htaken, rfl, hhandled, hduring⟩
      have hmove := Move.event heffect
      have hs' := hmove.sound hs₁
      have hbecomes : arrival.Becomes ⟨s₁.sessions.current, taken⟩ := by
        rw [htaken]
        exact Arrival.becomes_tag htag _
      cases outcome with
      | error error =>
        dsimp only
        rw [Act.wp_bind]
        refine failOrClose_parts error hs' fun answer => ⟨rest, ?_⟩
        exact hpolling.checked hbecomes hhandled hduring answer
      | ok topologyChanged => exact afterEvent_parts ih hpolling hbecomes hhandled hduring hs' topologyChanged

theorem pollBatches_parts (remaining : Nat) (h : Log m r) (s : Frame m r) (hpolling : Polling base [] h) (hs : s.Sound) :
    Act.wp (pollBatches remaining) h s (Parts (Polled base) (Polling base [])) := by
  -- Induction on the batches the budget still allows; each begins with nothing left of the last.
  induction remaining generalizing h s with
  | zero => exact .go hpolling ⟨[], hpolling⟩ hs
  | succ remaining ih =>
    unfold pollBatches
    rw [Act.wp_bind, wp_poll]
    intro batch
    cases batch with
    | error error =>
      have hpolled : Polling base [] (.call s (Op.poll .ZERO) (.error error) :: h) := hpolling.polled rfl
      dsimp only
      rw [Act.wp_bind]
      refine failOrClose_parts (.transport error) hs fun answer => ⟨[], hpolled.driven ?_⟩
      exact .single ⟨⟨⟨rfl, rfl⟩, rfl⟩, rfl, rfl⟩
    | ok events =>
      have hpolled : Polling base (events.map (Arrival.mk · s.sessions.current)) (.call s (Op.poll .ZERO) (.ok events) :: h) :=
        hpolling.polled rfl
      dsimp only
      split
      · rename_i hempty
        rw [List.isEmpty_iff.1 hempty] at hpolled ⊢
        exact .go hpolled ⟨[], hpolled⟩ hs
      · rw [Act.wp_bind, wp_frame]
        have htags : events.map s.sessions.tagCurrent =
            (events.map (Arrival.mk · s.sessions.current)).map Arrival.tag := by
          rw [List.map_map]
          rfl
        rw [htags]
        refine wp_parts (handleEvents_parts _ _ s hpolled hs) (fun _ => rfl) ?_
        intro h' s' hdone hs'
        dsimp only
        split
        · have hspent := @Move.progress _ _ h' s' { s'.progress with immediate := true } rfl
          simp only [Act.wp_bind, modifyProgress, wp_update]
          exact ih h' _ hdone (hspent.sound hs')
        · exact ih h' s' hdone hs'

/-- What a step logs: the command, the polls, and what falls due or ends it. -/
structure StepLog (h h' : Log m r) (step : WorkerStep) : Prop where
  parts : ∃ ending polls opening rest, h' = ending ++ (polls ++ (opening ++ h)) ∧ Polls polls rest ∧
    (∀ e ∈ opening, Opening e) ∧ (∀ e ∈ ending, Unanswering e) ∧ (step.goesOn = true → rest = [])

/-- The command of a step and the check after it. -/
def Opened (h : Log m r) (h' : Log m r) : Prop := Adds Opening h h'

theorem commandPhase_parts (h₀ h : Log m r) (s : Frame m r) (hopened : Opened h₀ h) (hs : s.Sound)
    (hresult : s.progress.commandResult = none) : Act.wp commandPhase h s (Parts (Opened h₀) (Opened h₀)) := by
  unfold commandPhase
  rw [Act.wp_bind, wp_frame]
  split
  · exact .go hopened hopened hs
  · rename_i hidle
    rw [Bool.or_eq_true, not_or] at hidle
    have hcommand : s.connectionCommandPending = none := by simpa using hidle.1
    have htap : s.reporting.hasPending = false := by simpa using hidle.2
    rw [Act.wp_bind, wp_nextCommand]
    intro command
    have htaken : Opened h₀ (.call s Op.nextCommand command :: h) := hopened.cons ⟨⟨⟨rfl, rfl⟩, rfl⟩, rfl, rfl⟩
    cases command with
    | none => exact .go htaken htaken hs
    | some command =>
      simp only [Act.wp_bind, modifyProgress, wp_update]
      refine Act.wp_mono (runCommand_spec command _ s.countCommand) ?_
      intro h' s' progress heffect
      have hmove := Move.command hcommand htap hresult heffect
      refine wp_settle _ _ _ _ (fun _ => heffect.result.trans hresult) ?_
      rw [← Act.wp_bind]
      refine afterPhase_parts _ (hmove.sound hs) fun answer => (htaken.trans (heffect.opening htap)).cons ?_
      exact ⟨⟨⟨rfl, rfl⟩, rfl⟩, rfl, rfl⟩

theorem duePhase_parts (h : Log m r) (s : Frame m r) (hs : s.Sound) :
    Act.wp duePhase h s (Parts (Adds Unanswering h) (Adds Unanswering h)) := by
  unfold duePhase
  rw [Act.wp_bind, wp_frame]
  split
  · rename_i hallowed
    have hallowed : s.DueAllowed := by
      simpa only [WorkerCore.DueAllowed, Bool.or_eq_true, Bool.and_eq_true, decide_eq_true_eq] using hallowed
    unfold modifyProgress
    simp only [Act.wp_bind, wp_now, wp_update]
    intro t
    refine Act.wp_mono (runDue_spec t _ s) ?_
    intro h' s' due heffect
    have hmove := Move.due hallowed heffect
    refine recordDueCompletion_spec _ _ (s'.countDue due) (heffect.unanswered hs) _ ?_
    refine recordDueErrors_spec _ _ _ _ _ ?_
    rw [← Act.wp_bind]
    refine afterPhase_parts _ (hmove.sound hs) fun answer => ?_
    exact ((Adds.single ⟨⟨rfl, rfl⟩, rfl⟩).trans heffect.unanswering).cons ⟨⟨rfl, rfl⟩, rfl⟩
  · exact .go .refl .refl hs

/-- A phase at whose exits the step is logged, and after which it goes on. -/
theorem wp_log {P Q : Log m r → Prop} {h₀ : Log m r} {x : Worker m r (Option WorkerStep)}
    {f : Option WorkerStep → Worker m r WorkerStep} (hx : Act.wp x h s (Parts P Q)) (hexit : ∀ step, f (some step) = pure step)
    (hlog : ∀ h₁ h' step, P h₁ → Adds Unanswering h₁ h' → step.goesOn = false → StepLog h₀ h' step)
    (hgo : ∀ h' s', Q h' → s'.Sound → Act.wp (f none) h' s' fun h' _ step => StepLog h₀ h' step) :
    Act.wp (x >>= f) h s fun h' _ step => StepLog h₀ h' step := by
  rw [Act.wp_bind]
  refine Act.wp_mono hx ?_
  intro h' s' exit hparts
  cases exit with
  | none =>
    obtain ⟨hQ, hs'⟩ := hparts.goes rfl
    exact hgo h' s' hQ hs'
  | some step =>
    rw [hexit]
    obtain ⟨h₁, hP, hasides⟩ := hparts.exits
    exact hlog h₁ h' step hP hasides (hparts.ends step rfl)

theorem StepLog.of_polling {h₀ : Log m r} {rest : List Arrival} {step : WorkerStep} (hopened : Opened h₀ base)
    (hpolling : Polling base rest h₁) (hasides : Adds Unanswering h₁ h') (hrest : step.goesOn = true → rest = []) :
    StepLog h₀ h' step := by
  obtain ⟨opening, rfl, hopening⟩ := hopened
  obtain ⟨polls, rfl, hpolls⟩ := hpolling
  obtain ⟨ending, rfl, hending⟩ := hasides
  exact ⟨ending, polls, opening, rest, rfl, hpolls, hopening, hending, hrest⟩

theorem stepAfterCommand_log {h₀ : Log m r} (hopened : Opened h₀ h) (hs : s.Sound) :
    Act.wp stepAfterCommand h s fun h' _ step => StepLog h₀ h' step := by
  have hunpolled : Polling h [] h := ⟨[], rfl, .start⟩
  have hlast : ∀ h₁ h' step, Polled h h₁ → Adds Unanswering h₁ h' → step.goesOn = false → StepLog h₀ h' step := by
    rintro h₁ h' step ⟨rest, hpolling⟩ hasides hends
    refine .of_polling hopened hpolling hasides ?_
    rw [hends]
    exact nofun
  have hmarked : Act.wp markImmediate h s fun h' s' _ => h' = h ∧ s'.Sound := by
    unfold markImmediate modifyProgress
    rw [Act.wp_bind, wp_frame]
    have hmove := @Move.progress _ _ h s { s.progress with immediate := true } rfl
    split
    · exact ⟨rfl, hmove.sound hs⟩
    · exact ⟨rfl, hs⟩
  unfold stepAfterCommand
  rw [Act.wp_bind]
  refine Act.wp_mono hmarked ?_
  rintro h' s₁ - ⟨rfl, hs₁⟩
  rw [Act.wp_bind, wp_frame]
  refine wp_log (pollBatches_parts _ h' s₁ hunpolled hs₁) (fun _ => rfl) hlast ?_
  intro h₂ s₂ hpolling hs₂
  refine wp_log (topologyDrive_parts hpolling hs₂ true) (fun _ => rfl) hlast ?_
  intro h₃ s₃ hpolling hs₃
  refine wp_log (duePhase_parts h₃ s₃ hs₃) (fun _ => rfl) ?_ ?_
  · intro h₁ h'' step hadds hasides hends
    exact .of_polling hopened hpolling (hadds.trans hasides) fun _ => rfl
  · intro h₄ s₄ hadds hs₄
    exact .of_polling hopened hpolling hadds fun _ => rfl

/-- Every step logs its command, then its polls, then the rest. -/
theorem stepRuntime_log (h : Log m r) (s : Frame m r) (hs : Coherent s.toWorkerCore) :
    Act.wp stepRuntime h s fun h' _ step => StepLog h h' step := by
  have hfresh : s.fresh.Sound := ⟨hs, fun _ => rfl⟩
  have hlast : ∀ h₁ h' step, Opened h h₁ → Adds Unanswering h₁ h' → step.goesOn = false → StepLog h h' step := by
    intro h₁ h' step hopened hasides _
    exact .of_polling hopened ⟨[], rfl, .start⟩ hasides fun _ => rfl
  have hchecked : ∀ answer : Option ShutdownRequest, Opened h (.call s.fresh Op.takeShutdown answer :: h) := by
    intro answer
    exact Adds.single ⟨⟨⟨rfl, rfl⟩, rfl⟩, rfl, rfl⟩
  unfold stepRuntime modifyProgress
  rw [Act.wp_bind, wp_update]
  unfold closeIfRequested
  simp only [Act.wp_bind, wp_takeShutdown]
  intro request
  cases request with
  | some request =>
    simp only [Act.wp_bind, wp_now]
    intro t
    refine Act.wp_mono (close_spec request t _ s.fresh fun hpending => hfresh.unanswered (.inl hpending)) ?_
    intro h' s' step hclose
    have hasides : Adds Unanswering (.call s.fresh Op.takeShutdown (some request) :: h) h' := by
      refine Adds.trans ?_ hclose.unanswering
      exact .single ⟨⟨rfl, rfl⟩, rfl⟩
    exact .of_polling (hchecked (some request)) ⟨[], rfl, .start⟩ hasides fun _ => rfl
  | none =>
    refine wp_log (commandPhase_parts h _ s.fresh (hchecked none) hfresh rfl) (fun _ => rfl) hlast ?_
    intro h₁ s₁ hopened hs₁
    exact stepAfterCommand_log hopened hs₁

end Swbt
