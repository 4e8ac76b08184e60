import Swbt.Runtime.Tap
/-!
# What transport errors end

A fatal error ends the step it came in, and a rejection never does. A command
whose own report failed for good is answered all the same, with the first
error it met.
-/

set_option autoImplicit false

open Effects

namespace Swbt

variable {m : ControllerKind} {r : ReportingKind} {h h₀ h₁ h' : Log m r} {s s₁ s' f : Frame m r}

/-! ## Events of a step -/

/-- The event came after `h`, with `h₀` before it, and is in `h'`. -/
def Within (h : Log m r) (e : LogEvent m r) (h₀ h' : Log m r) : Prop := e :: h₀ <:+ h' ∧ h <:+ h₀

theorem Within.mem {e : LogEvent m r} (hwithin : Within h e h₀ h') : ∃ added, h' = added ++ h ∧ e ∈ added := by
  obtain ⟨⟨after, rfl⟩, between, rfl⟩ := hwithin
  exact ⟨after ++ e :: between, by simp, by simp⟩

/-- Events of `P` only, so not this one. -/
theorem Within.not_adds {P : LogEvent m r → Prop} {e : LogEvent m r} (hwithin : Within h e h₀ h')
    (hadds : Adds P h h') : P e := by
  obtain ⟨added, heq, hmem⟩ := hwithin.mem
  obtain ⟨added', heq', hall⟩ := hadds
  rw [heq] at heq'
  rw [List.append_left_inj] at heq'
  exact hall e (heq' ▸ hmem)

theorem Log.fatals_append (added h : Log m r) : Log.fatals (added ++ h) = Log.fatals added ++ h.fatals :=
  List.filterMap_append

/-- The fatal errors since `h`. -/
theorem Within.fatal {e : LogEvent m r} {error : TransportError} {new : List TransportError}
    (hwithin : Within h e h₀ h') (hfatal : fatalError e = some error) (hnew : h'.fatals = new ++ h.fatals) :
    error ∈ new := by
  obtain ⟨added, rfl, hmem⟩ := hwithin.mem
  rw [Log.fatals_append, List.append_left_inj] at hnew
  rw [← hnew]
  exact List.mem_filterMap.2 ⟨e, hmem, hfatal⟩

/-- The marks since `h`, while no command is taken. -/
theorem Adds.marks (hadds : Adds Untaken h h') :
    ∃ new, h'.marks = new ++ h.marks ∧
      ∀ e h₀ mark, Within h e h₀ h' → markOf h₀ e = some mark → mark ∈ new := by
  obtain ⟨added, rfl, hall⟩ := hadds
  induction added with
  | nil =>
    refine ⟨[], rfl, ?_⟩
    rintro e h₀ mark ⟨⟨after, hafter⟩, ⟨between, rfl⟩⟩
    have hlength := congrArg List.length hafter
    simp only [List.length_append, List.length_cons, List.nil_append] at hlength
    omega
  | cons first rest ih =>
    obtain ⟨hfirst, hrest⟩ := List.forall_mem_cons.1 hall
    obtain ⟨new, hmarks, hnew⟩ := ih hrest
    have hfirst : takenCommand first = none := hfirst
    refine ⟨(markOf (rest ++ h) first).toList ++ new, ?_, ?_⟩
    · rw [List.cons_append, Log.marks, hfirst, hmarks, List.append_assoc]
    · rintro e h₀ mark ⟨hsuffix, hbefore⟩ hmark
      rw [List.mem_append]
      rcases List.suffix_cons_iff.1 hsuffix with heq | hsuffix
      · cases heq
        exact .inl (Option.mem_toList.2 hmark)
      · exact .inr (hnew e h₀ mark ⟨hsuffix, hbefore⟩ hmark)

/-! ## The first error of a command -/

/-- The error of a report that was refused. -/
def Mark.refusal : Mark m → Option TransportError
  | sent _ _ (.error error) => some error
  | _ => none

/-- The first of them. -/
def firstRefusal (marks : List (Mark m)) : Option TransportError := marks.reverse.findSome? Mark.refusal

/-- The transport error a command is answered with. -/
def WorkerCommandError.transportError : WorkerCommandError → Option TransportError
  | periodic (.transport error _) | direct (.transport error) => some error
  | _ => none

theorem firstRefusal_append (later earlier : List (Mark m)) :
    firstRefusal (later ++ earlier) = (firstRefusal earlier).or (firstRefusal later) := by
  unfold firstRefusal
  rw [List.reverse_append, List.findSome?_append]

theorem firstRefusal_inputMarks (r : ReportingKind) (t : Duration) (state : InputState m)
    (result : TransportResult Unit) : firstRefusal (inputMarks r t state result) = pressError result := by
  cases r with
  | periodic =>
    rcases result with error | ⟨⟩
    · rfl
    · rfl
  | direct =>
    rcases result with error | ⟨⟩
    · rfl
    · rfl

/-- A pending tap remembers the first error of its command, which was no more than a rejection. -/
def Attributed (h : Log m r) (s : Frame m r) : Prop :=
  ∀ tap, s.reporting.tap = some tap → tap.firstError = firstRefusal h.marks ∧
    ∀ error, tap.firstError = some error → error.kind = .sendRejected

theorem Attributed.mild (hattributed : Attributed h s) : s.Mild :=
  fun tap htap => (hattributed tap htap).2

theorem Transacted.attributed (hmove : Transacted h s h' s') (hattributed : Attributed h s) : Attributed h' s' := by
  intro tap htap
  cases hmove with
  | kept hunmarked hflight =>
    rw [hunmarked.marks]
    cases hflight with
    | same hsame => exact hattributed tap (hsame.tap ▸ htap)
    | answered htap' hinput hpending hcommand hresult => exact hattributed tap (htap' ▸ htap)
  | ended hmarks htaken hflight =>
    rw [hflight.tap] at htap
    cases htap
  | released htap' hdue hmarks htaken hinput hgone hcommand hresult =>
    rw [hgone] at htap
    cases htap

theorem InputEffect.attributed {command : ReportingCommand m r} {t : Duration} {progress : WorkerCommandProgress}
    (he : InputEffect command t h s h' s' progress) (hmarks : h.marks = []) (hcapacity : h.asksCapacity = false)
    (hclock : h.clock = some t) (htap : s.reporting.tap = none) :
    Attributed h' (s'.settle (nonterminalCommandProgress progress).1) := by
  have hsettle : ∀ {s : Frame m r} {progress : WorkerCommandProgress}, s.reporting.tap = none →
      Attributed h' (s.settle progress) := by
    intro s progress hnone tap htap
    cases progress with
    | complete result => cases hnone.symm.trans htap
    | pending => cases hnone.symm.trans htap
  cases he with
  | rejected herror hplan => exact hsettle htap
  | committed hr candidate hplan => exact hsettle htap
  | sent hr hready hsent hplan => exact hsettle ((congrArg Reporting.tap hsent.sameCommand.reporting).trans htap)
  | unsent hr hready hsent hplan => exact hsettle ((congrArg Reporting.tap hsent.sameCommand.reporting).trans htap)
  | pressedDirect hr hready hsent hplan =>
    subst hr
    obtain ⟨hmarked, -⟩ := hsent.marked hready hcapacity hclock
    intro tap hsome
    cases (Reporting.tap_withTap_direct _ _).symm.trans hsome
    rw [hmarked, hmarks, List.append_nil, firstRefusal_inputMarks]
    exact ⟨rfl, fun error herror => nomatch herror⟩
  | pressedPeriodic hr hready hsent hresult hplan =>
    subst hr
    obtain ⟨hmarked, -⟩ := hsent.marked hready hclock
    intro tap hsome
    cases (Reporting.tap_withTap_periodic _ _).symm.trans hsome
    rw [hmarked, hmarks, List.append_nil, firstRefusal_inputMarks]
    rcases hresult with ⟨rfl, rfl⟩ | ⟨error, rfl, hkind, rfl⟩
    · exact ⟨rfl, fun error herror => nomatch herror⟩
    · refine ⟨rfl, ?_⟩
      rintro error ⟨⟩
      exact hkind
  | unpressed hr hready hsent hkind hplan =>
    exact hsettle ((congrArg Reporting.tap (PeriodicSent.sameCommand hsent).reporting).trans htap)

theorem Undertaken.attributed (hmove : Undertaken h s h' s') : Attributed h' s' := by
  cases hmove with
  | taken hcommand htap hnone heffect hsettled =>
    subst hsettled
    have hidle : ∀ {s : Frame m r} {result : CommandResult}, s.reporting.tap = none → Attributed h' (s.answer result) :=
      fun hnone tap hsome => nomatch hnone.symm.trans hsome
    cases heffect with
    | unstarted => exact hidle htap
    | refused hopen => exact hidle htap
    | begun hopen =>
      intro tap hsome
      have hreset : s.countCommand.reporting.resetPolicy.tap = none := by
        rw [← Option.isNone_iff_eq_none, ← Option.isSome_eq_false_iff, ← Reporting.hasPending_eq,
          Reporting.hasPending_resetPolicy, Reporting.hasPending_eq, Option.isSome_eq_false_iff,
          Option.isNone_iff_eq_none]
        exact htap
      cases hreset.symm.trans hsome
    | ended hended => exact hidle htap
    | input heffect => exact heffect.attributed rfl rfl rfl htap

theorem Move.attributed {terminal : Option WorkerCoreError} (hmove : Move h s terminal h' s') (hs : s.Sound)
    (hattributed : Attributed h s) : Attributed h' s' := by
  rcases hmove.transacted hs with hkept | htaken
  · exact hkept.attributed hattributed
  · exact htaken.attributed

theorem Path.attributed (hpath : Path h s h' s') (hattributed : Attributed h s) : Attributed h' s' :=
  hpath.inv hattributed fun hsound hmove hattributed => hmove.attributed hsound hattributed

theorem Run.attributed (hrun : Run h s) : Attributed h s := by
  induction hrun with
  | opened hnew =>
    rename_i core
    intro tap htap
    have hpending : core.reporting.hasPending = false := Reporting.hasPending_of_idle hnew.isOpen.idle
    rw [Reporting.hasPending_eq, show core.reporting.tap = some tap from htap] at hpending
    cases hpending
  | step hrun hexec ih =>
    cases hexec.post (stepRuntime_spec _ _ hrun.coherent) with
    | continued hpath hsound => exact hpath.attributed ih
    | closed hpath hsound₁ hlast hsound hclose => cases hclose
    | failed hpath hsound₁ hmove hsound hfail => cases hfail

/-! ## Fatal reports of commands -/

/-- A fatal event with a mark is a report that was refused. -/
theorem markOf_fatal {e : LogEvent m r} {error : TransportError} {mark : Mark m} (hfatal : fatalError e = some error)
    (hmark : markOf h₀ e = some mark) : error.kind ≠ .sendRejected ∧ ∃ t controls, mark = .sent t controls (.error error) := by
  unfold fatalError at hfatal
  split at hfatal
  · cases hmark
  · unfold markOf at hmark
    dsimp only at hmark
    split at hmark
    · cases hmark
      rename_i result _
      cases result with
      | ok accepted => cases hfatal
      | error refused =>
        unfold fatalResult at hfatal
        dsimp only at hfatal
        split at hfatal
        · cases hfatal
        · rename_i hkind
          cases hfatal
          exact ⟨hkind, _, _, rfl⟩
    · cases hmark
  · cases hfatal

theorem mem_inputMarks {t : Option Duration} {d : Duration} {controls : List UInt8} {state : InputState m}
    {result : TransportResult Unit} {error : TransportError}
    (hmem : Mark.sent t controls (.error error) ∈ inputMarks r d state result) : result = .error error := by
  cases r with
  | periodic =>
    simp only [inputMarks, List.mem_cons, Mark.sent.injEq, reduceCtorEq, List.not_mem_nil, or_false] at hmem
    exact hmem.2.2.symm
  | direct =>
    rcases result with refused | ⟨⟩
    · simp only [inputMarks, List.mem_cons, Mark.sent.injEq, List.not_mem_nil, or_false] at hmem
      exact hmem.2.2.symm
    · simp [inputMarks] at hmem

theorem releaseOutcome_error {firstError : Option TransportError} {error : TransportError} :
    ∃ failure, releaseOutcome r firstError (.error error) = .error failure ∧
      (r = .periodic ∨ firstError = none → failure.transportError = firstError.or (some error)) := by
  cases r with
  | periodic =>
    cases firstError with
    | none => exact ⟨_, rfl, fun _ => rfl⟩
    | some first => exact ⟨_, rfl, fun _ => rfl⟩
  | direct =>
    refine ⟨.direct (.transport error), rfl, ?_⟩
    rintro (hr | rfl)
    · cases hr
    · rfl

/-- The command has failed with the first error of its reports. -/
def Blamed (h : Log m r) (s : Frame m r) : Prop :=
  ∃ failure, s.progress.commandResult = some (.error failure) ∧ failure.transportError = firstRefusal h.marks

theorem InputEffect.blamed {command : ReportingCommand m r} {t : Duration} {progress : WorkerCommandProgress}
    {sentAt : Option Duration} {controls : List UInt8} {error : TransportError}
    (he : InputEffect command t h s h' s' progress) (hmarks : h.marks = []) (hcapacity : h.asksCapacity = false)
    (hclock : h.clock = some t) (hmem : Mark.sent sentAt controls (.error error) ∈ h'.marks)
    (hkind : error.kind ≠ .sendRejected) : Blamed h' (s'.settle (nonterminalCommandProgress progress).1) := by
  cases he with
  | rejected herror hplan =>
    rw [hmarks] at hmem
    cases hmem
  | committed hr candidate hplan =>
    have hmarked : Log.marks (.emit (s.commit candidate) (.status (.setSnapshot candidate)) :: h) =
        [.committed candidate] := congrArg (Mark.committed candidate :: ·) hmarks
    rw [hmarked] at hmem
    simp at hmem
  | sent hr hready hsent hplan =>
    subst hr
    rw [(hsent.marked hready hcapacity hclock).1, hmarks, List.append_nil] at hmem
    cases mem_inputMarks hmem
  | unsent hr hready hsent hplan =>
    subst hr
    unfold Blamed
    rw [(hsent.marked hready hcapacity hclock).1, hmarks, List.append_nil, firstRefusal_inputMarks, settled_direct]
    exact ⟨_, rfl, rfl⟩
  | pressedDirect hr hready hsent hplan =>
    subst hr
    rw [(hsent.marked hready hcapacity hclock).1, hmarks, List.append_nil] at hmem
    cases mem_inputMarks hmem
  | pressedPeriodic hr hready hsent hresult hplan =>
    subst hr
    rw [(hsent.marked hready hclock).1, hmarks, List.append_nil] at hmem
    rcases hresult with ⟨rfl, -⟩ | ⟨rejected, rfl, hrejected, -⟩
    · cases mem_inputMarks hmem
    · cases mem_inputMarks hmem
      exact absurd hrejected hkind
  | unpressed hr hready hsent hfatal hplan =>
    subst hr
    unfold Blamed
    rw [(hsent.marked hready hclock).1, hmarks, List.append_nil, firstRefusal_inputMarks, settled_periodic]
    exact ⟨_, rfl, rfl⟩

theorem CommandEffect.blamed {command : RuntimeCommand m r} {progress : WorkerCommandProgress}
    {sentAt : Option Duration} {controls : List UInt8} {error : TransportError}
    (he : CommandEffect h s command h' s' progress) (hmarks : h.marks = [])
    (hmem : Mark.sent sentAt controls (.error error) ∈ h'.marks) (hkind : error.kind ≠ .sendRejected) :
    Blamed h' (s'.settle (nonterminalCommandProgress progress).1) := by
  have hstart : ∀ (kind : ConnectionCommandKind) (result : TransportResult Unit),
      Log.marks (startEvent kind s result :: h) = [] := by
    intro kind result
    cases kind with
    | pair => exact hmarks
    | reconnect => exact hmarks
  cases he with
  | unstarted =>
    rw [hstart] at hmem
    cases hmem
  | refused hopen =>
    rename_i kind timeout t
    have hmarked : Log.marks (.call s Op.now t :: startEvent kind s (.ok ()) :: h) = [] := hstart _ _
    rw [hmarked] at hmem
    cases hmem
  | begun hopen =>
    rename_i kind timeout t
    have hmarked : Log.marks (s.beginLog (deadlineAfter t timeout) (.call s Op.now t :: startEvent kind s (.ok ()) :: h)) =
        [.committed .neutral] := congrArg (Mark.committed .neutral :: ·) (hstart kind (.ok ()))
    rw [hmarked] at hmem
    simp at hmem
  | ended hended =>
    rw [hmarks] at hmem
    cases hmem
  | input heffect => exact heffect.blamed hmarks rfl rfl hmem hkind

theorem Reporting.firstError_direct {tap : Tap m} (reporting : Reporting m r) (htap : reporting.tap = some tap) :
    r = .periodic ∨ tap.firstError = none := by
  cases reporting with
  | periodic runtime => exact .inl rfl
  | direct runtime =>
    obtain ⟨pending, -, rfl⟩ := Option.map_eq_some_iff.1 htap
    exact .inr rfl

/-- A move takes no command, or it is that of one. -/
theorem Move.untaken {terminal : Option WorkerCoreError} (hmove : Move h s terminal h' s') :
    Adds Untaken h h' ∨ Undertaken h s h' s' := by
  rcases hmove.plain with hplain | ⟨command, s₁, progress, -, heffect, hsettled, hcommand, htap, hresult⟩ |
    ⟨event, result, hplain, -⟩
  · exact .inl (Adds.untaken hplain)
  · rw [Reporting.hasPending_eq, Option.isSome_eq_false_iff, Option.isNone_iff_eq_none] at htap
    exact .inr (.taken hcommand htap hresult heffect hsettled)
  · exact .inl ((Adds.processed s event).trans (Adds.untaken hplain))

/-- While its tap is pending the one report of a command is its release. -/
theorem Transacted.blamed {e : LogEvent m r} {sentAt : Option Duration} {controls : List UInt8} {error : TransportError}
    (hmove : Transacted h s h' s') (hattributed : Attributed h s) (hadds : Adds Untaken h h')
    (hwithin : Within h e h₀ h') (hmark : markOf h₀ e = some (.sent sentAt controls (.error error))) :
    Blamed h' s' := by
  obtain ⟨new, hmarks, hnew⟩ := Adds.marks hadds
  have hmem := hnew e h₀ _ hwithin hmark
  cases hmove with
  | kept hunmarked hflight =>
    rw [hunmarked.marks, List.self_eq_append_left] at hmarks
    rw [hmarks] at hmem
    cases hmem
  | ended hended htaken hflight =>
    rw [hended, ← List.singleton_append, List.append_left_inj] at hmarks
    rw [← hmarks] at hmem
    simp at hmem
  | released htap hdue hreleased htaken hinput hgone hcommand hresult =>
    rw [hreleased, List.append_left_inj] at hmarks
    rw [← hmarks] at hmem
    obtain rfl := mem_inputMarks hmem
    obtain ⟨failure, houtcome, hfailure⟩ := @releaseOutcome_error r (Tap.firstError _) error
    refine ⟨failure, hresult.trans (congrArg some houtcome), ?_⟩
    rw [hreleased, firstRefusal_append, firstRefusal_inputMarks, ← (hattributed _ htap).1]
    exact hfailure (s.reporting.firstError_direct htap)

/-- A move in which a report of the command failed for good has answered it. -/
theorem Move.blamed {terminal : Option WorkerCoreError} {e : LogEvent m r} {error : TransportError} {mark : Mark m}
    (hmove : Move h s terminal h' s') (hs : s.Sound) (hattributed : Attributed h s) (hwithin : Within h e h₀ h')
    (hfatal : fatalError e = some error) (hmark : markOf h₀ e = some mark) : Blamed h' s' := by
  obtain ⟨hkind, t, controls, rfl⟩ := markOf_fatal hfatal hmark
  rcases hmove.untaken with hadds | htaken
  · rcases hmove.transacted hs with hkept | htaken
    · exact hkept.blamed hattributed hadds hwithin hmark
    · exact absurd hadds htaken.takes
  · cases htaken with
    | taken hcommand htap hnone heffect hsettled =>
      subst hsettled
      rename_i command s₁ progress
      -- the event after the command's is the refused report
      have hlater : Within (.call s Op.nextCommand (some command) :: h) e h₀ h' := by
        refine ⟨hwithin.1, ?_⟩
        rcases List.suffix_or_suffix_of_suffix heffect.plain.suffix hwithin.1 with hbefore | hafter
        · rcases List.suffix_cons_iff.1 hbefore with heq | hbefore
          · cases heq
            cases hfatal
          · exact hbefore
        · rcases List.suffix_cons_iff.1 hafter with heq | hafter
          · cases heq
            cases hfatal
          · have hlength := hafter.length_le
            have hstart := hwithin.2.length_le
            simp only [List.length_cons] at hlength
            omega
      obtain ⟨new, hmarks, hnew⟩ := Adds.marks (Adds.untaken heffect.plain)
      have hmem := hnew e h₀ _ hlater hmark
      have hmarked : Mark.sent t controls (.error error) ∈ h'.marks := by
        rw [hmarks]
        exact List.mem_append_left _ hmem
      exact heffect.blamed rfl hmarked hkind

/-! ## What a step can fail with -/

theorem nonterminalOperationError_terminal {error : WorkerOperationError} {terminal : WorkerCoreError}
    (hterminal : (nonterminalOperationError error).2 = some terminal) : terminal ≠ .invalidLifecycle := by
  unfold nonterminalOperationError at hterminal
  split at hterminal
  · split at hterminal
    · cases hterminal
      exact WorkerCoreError.noConfusion
    · cases hterminal
  · obtain ⟨error, -, rfl⟩ := Option.map_eq_some_iff.1 hterminal
    exact WorkerCoreError.noConfusion
  · cases hterminal

theorem nonterminalCommandProgress_terminal {progress : WorkerCommandProgress} {terminal : WorkerCoreError}
    (hterminal : (nonterminalCommandProgress progress).2 = some terminal) : terminal ≠ .invalidLifecycle := by
  unfold nonterminalCommandProgress at hterminal
  split at hterminal
  · split at hterminal
    · cases hterminal
      exact WorkerCoreError.noConfusion
    · cases hterminal
  · obtain ⟨error, -, rfl⟩ := Option.map_eq_some_iff.1 hterminal
    exact WorkerCoreError.noConfusion
  · cases hterminal

theorem ReportingDue.terminal_valid {due : ReportingDue} {terminal : WorkerCoreError}
    (hterminal : due.terminal = some terminal) : terminal ≠ .invalidLifecycle := by
  have hfold : ∀ (errors : List WorkerOperationError) (start : Option WorkerCoreError),
      (∀ error, start = some error → error ≠ .invalidLifecycle) →
      errors.foldl (fun terminal error => terminal <|> (nonterminalOperationError error).2) start = some terminal →
        terminal ≠ .invalidLifecycle := by
    intro errors
    induction errors with
    | nil => exact fun start hstart hresult => hstart terminal hresult
    | cons error rest ih =>
      intro start hstart hresult
      refine ih _ ?_ hresult
      intro first hfirst
      rcases start with _ | found
      · exact nonterminalOperationError_terminal hfirst
      · exact hstart first hfirst
  refine hfold due.errors _ ?_ hterminal
  intro error herror
  obtain ⟨progress, -, hprogress⟩ := Option.bind_eq_some_iff.1 herror
  exact nonterminalCommandProgress_terminal hprogress

theorem EventEffect.terminal_valid {event : SessionEvent} {terminal : WorkerCoreError}
    (he : EventEffect event h s h' s' (.error terminal)) : terminal ≠ .invalidLifecycle := by
  generalize hresult : Except.error terminal = result at he
  cases he with
  | dropped hstale => cases hresult
  | connected hcurrent hevent => cases hresult
  | opened hcurrent hevent => cases hresult
  | answered hcurrent hevent hheld hanswered =>
    unfold completionResult at hresult
    split at hresult
    · split at hresult
      · cases hresult
        exact WorkerCoreError.noConfusion
      · cases hresult
    · cases hresult
  | disconnected hcurrent hevent => cases hresult

theorem DriveEffect.terminal_valid {t : Duration} {terminal : WorkerCoreError}
    (he : DriveEffect t h s h' s' (.error terminal)) : terminal ≠ .invalidLifecycle := by
  cases he with
  | failed hwork hactive hhandshake =>
    generalize hresult : (Except.error terminal, _) = result at hhandshake
    cases hhandshake with
    | collected hnone => cases hresult
    | overflow hsome heffect =>
      cases hresult
      exact WorkerCoreError.noConfusion
    | stepped hsome heffect =>
      have houtcome := congrArg Prod.fst hresult
      unfold HandshakeProgress.outcome at houtcome
      split at houtcome
      · split at houtcome
        · cases houtcome
        · split at houtcome
          · cases houtcome
          · cases houtcome
            exact WorkerCoreError.noConfusion
      · cases houtcome
      · cases houtcome
      · cases houtcome
      · cases houtcome

/-- A step fails with an error of the transport or of the handshake. -/
theorem Move.terminal_valid {terminal : WorkerCoreError} (hmove : Move h s (some terminal) h' s') :
    terminal ≠ .invalidLifecycle := by
  generalize hterminal : some terminal = outcome at hmove
  have hresult : ∀ {α : Type} {result : Except WorkerCoreError α}, some terminal = terminalError result →
      result = .error terminal := by
    intro α result heq
    rcases result with error | value
    · cases heq
      rfl
    · cases heq
  cases hmove with
  | unrequested => cases hterminal
  | noCommand hcommand htap => cases hterminal
  | polled => cases hterminal
  | pollFailed =>
    cases hterminal
    exact WorkerCoreError.noConfusion
  | untagged => cases hterminal
  | progress hkept => cases hterminal
  | command hcommand htap hnone heffect => exact nonterminalCommandProgress_terminal hterminal.symm
  | event heffect =>
    rw [hresult hterminal] at heffect
    exact heffect.terminal_valid
  | drive heffect =>
    rw [hresult hterminal] at heffect
    exact heffect.terminal_valid
  | due hallowed heffect => exact ReportingDue.terminal_valid hterminal.symm

/-! ## Steps -/

theorem Within.split {e : LogEvent m r} (hwithin : Within h e h₀ h') (hsuffix : h₁ <:+ h') :
    Within h e h₀ h₁ ∨ Within h₁ e h₀ h' := by
  obtain ⟨hbefore, hstart⟩ := hwithin
  rcases List.suffix_or_suffix_of_suffix hbefore hsuffix with hearly | hlate
  · exact .inl ⟨hearly, hstart⟩
  · rcases List.suffix_cons_iff.1 hlate with heq | hlate
    · rw [heq]
      exact .inl ⟨List.suffix_refl _, hstart⟩
    · exact .inr ⟨hbefore, hlate⟩

theorem Path.fatals (hpath : Path h s h₁ s₁) (hattributed : Attributed h s) : h₁.fatals = h.fatals := by
  induction hpath with
  | refl => rfl
  | move hpath hsound hmove ih => exact (hmove.fatals (hpath.attributed hattributed).mild).trans ih

/-- Nothing fatal comes up on a path. -/
theorem Path.mild {e : LogEvent m r} (hpath : Path h s h₁ s₁) (hattributed : Attributed h s)
    (hwithin : Within h e h₀ h₁) : fatalError e = none := by
  by_contra hfatal
  obtain ⟨error, herror⟩ := Option.ne_none_iff_exists'.1 hfatal
  have hnone : h₁.fatals = [] ++ h.fatals := hpath.fatals hattributed
  exact List.not_mem_nil (hwithin.fatal herror hnone)

/-- A worker that goes on has met no fatal error. -/
theorem Run.fatals (hrun : Run h s) : h.fatals = [] := by
  induction hrun with
  | opened hnew => rfl
  | step hrun hexec ih =>
    cases hexec.post (stepRuntime_spec _ _ hrun.coherent) with
    | continued hpath hsound => exact (hpath.fatals hrun.attributed).trans ih
    | closed hpath hsound₁ hlast hsound hclose => cases hclose
    | failed hpath hsound₁ hmove hsound hfail => cases hfail

/-- A shutdown was taken after `h`. -/
def ShutWithin (h h' : Log m r) : Prop :=
  ∃ (f : Frame m r) (request : ShutdownRequest) (h₀ : Log m r), Within h (.call f .takeShutdown (some request)) h₀ h'

/-- The step fails with the error, or a shutdown has closed it. -/
inductive Ended (error : TransportError) (h h' : Log m r) : WorkerStep → Prop
  | failed {progress : StepProgress} : Ended error h h' (.failed (.transport error) progress)
  | closed {completion : CloseCompletion} {interrupted : Option WorkerCommandError} {progress : StepProgress}
      (hshut : ShutWithin h h') : Ended error h h' (.closed completion interrupted progress)

/-- The step answers the command with the first error of its reports. -/
def Answers (h' : Log m r) (step : WorkerStep) : Prop :=
  ∃ failure, step.progress.commandResult = some (.error failure) ∧ failure.transportError = firstRefusal h'.marks

/-- A worker that has answered an input command has no connection command. -/
theorem Blamed.idle (hblamed : Blamed h s) (hs : s.Sound) : s.connectionCommandPending = none := by
  obtain ⟨failure, hresult, -⟩ := hblamed
  by_contra hpending
  rw [hs.unanswered (.inl (Option.isSome_iff_ne_none.2 hpending))] at hresult
  cases hresult

theorem StepEffect.fatal {step : WorkerStep} {e : LogEvent m r} {error : TransportError} (he : StepEffect h s h' s' step)
    (hattributed : Attributed h s) (hwithin : Within h e h₀ h') (hfatal : fatalError e = some error) :
    Ended error h h' step ∧ ∀ mark, markOf h₀ e = some mark → Answers h' step := by
  have hquiet : ∀ {h₁ : Log m r} {s₁ : Frame m r}, Path h s.fresh h₁ s₁ → ¬ Within h e h₀ h₁ := by
    intro h₁ s₁ hpath hearly
    rw [hpath.mild hattributed hearly] at hfatal
    cases hfatal
  cases he with
  | continued hpath hsound => exact absurd hwithin (hquiet hpath)
  | failed hpath hsound₁ hmove hsound hfail =>
    rename_i h₁ h₂ s₁ s₂ core
    have hattributed₁ : Attributed h₁ s₁ := hpath.attributed hattributed
    have hlast : Within h₁ e h₀ h₂ := by
      have hafter : Adds (fun e => fatalError e = none) h₂ h' := by
        cases hfail
        refine Adds.cons (Adds.single ?_) ?_
        · rfl
        · rfl
      rcases hwithin.split hafter.suffix with hmoved | hlate
      · exact (hmoved.split hmove.suffix).resolve_left (hquiet hpath)
      · cases hfatal.symm.trans (hlate.not_adds hafter)
    refine ⟨?_, ?_⟩
    · have hmem := hlast.fatal hfatal (hmove.fatals hattributed₁.mild)
      cases hfail
      cases core with
      | transport error =>
        cases List.mem_singleton.1 hmem
        exact .failed
      | handshake error => cases hmem
      | invalidLifecycle => cases hmem
    · intro mark hmark
      have hblamed := hmove.blamed hsound₁ hattributed₁ hlast hfatal hmark
      obtain ⟨hunmarked, -, -, hanswer⟩ := hfail.unmarked (hblamed.idle hsound)
      obtain ⟨failure, hresult, hfailure⟩ := hblamed
      refine ⟨failure, ?_, hunmarked.marks ▸ hfailure⟩
      cases hfail
      exact hanswer.trans hresult
  | closed hpath hsound₁ hlast hsound hclose =>
    rename_i h₁ h₂ s₁ s₂ request t
    have hafter : h₂ <:+ h' := (List.suffix_cons _ _).trans ((List.suffix_cons _ _).trans hclose.plain.suffix)
    refine ⟨?_, ?_⟩
    · have hshut : ShutWithin h h' := by
        refine ⟨s₂, request, h₂, (List.suffix_cons _ _).trans hclose.plain.suffix, ?_⟩
        exact hpath.suffix.trans hlast.suffix
      cases hclose
      exact .closed hshut
    · intro mark hmark
      have hmarks : h'.marks = [.shutdown] ++ h₂.marks := by
        cases hclose with
        | closed hcleaned =>
          have hcleaned := hcleaned.unmarked.1.marks
          exact hcleaned
      have hbefore : Within h e h₀ h₂ := by
        rcases hwithin.split hafter with hmoved | hlate
        · exact hmoved
        -- the report of a cleanup is no command's
        · have hasked : Adds Untaken h₂ (.call s₂ Op.now t :: .call s₂ Op.takeShutdown (some request) :: h₂) :=
            Adds.untaken ((Adds.single ⟨rfl, rfl⟩).cons ⟨rfl, rfl⟩)
          obtain ⟨new, hnew, hmem⟩ := Adds.marks (hasked.trans (Adds.untaken hclose.plain))
          rw [hmarks, List.append_left_inj] at hnew
          have hmem := hmem e h₀ mark hlate hmark
          obtain ⟨-, sentAt, controls, rfl⟩ := markOf_fatal hfatal hmark
          rw [← hnew] at hmem
          simp at hmem
      have hblamed : Blamed h₂ s₂ := by
        cases hlast with
        | none => exact absurd hbefore (hquiet hpath)
        | terminal hmove =>
          have hmoved := (hbefore.split hmove.suffix).resolve_left (hquiet hpath)
          exact hmove.blamed hsound₁ (hpath.attributed hattributed) hmoved hfatal hmark
      have hidle := hblamed.idle hsound
      obtain ⟨failure, hresult, hfailure⟩ := hblamed
      refine ⟨failure, ?_, ?_⟩
      · cases hclose with
        | closed hcleaned =>
          have hprogress := hcleaned.unmarked.2.2.trans (Frame.shut_progress hidle)
          exact (congrArg StepProgress.commandResult hprogress).trans hresult
      · rw [hmarks, firstRefusal_append, ← hfailure]
        exact (Option.or_none).symm

/-- A step fails on account of the transport only for a fatal error that came in it. -/
theorem StepEffect.failed_cause {error : WorkerCoreError} {progress : StepProgress}
    (he : StepEffect h s h' s' (.failed error progress)) (hattributed : Attributed h s) :
    (∃ e h₀ cause, Within h e h₀ h' ∧ fatalError e = some cause ∧ error = .transport cause) ∨
      ∃ cause, error = .handshake cause := by
  generalize hstep : WorkerStep.failed error progress = step at he
  cases he with
  | continued hpath hsound => cases hstep
  | closed hpath hsound₁ hlast hsound hclose =>
    cases hclose
    cases hstep
  | failed hpath hsound₁ hmove hsound hfail =>
    rename_i h₁ h₂ s₁ s₂ core
    have hvalid := hmove.terminal_valid
    have hattributed₁ : Attributed h₁ s₁ := hpath.attributed hattributed
    have hfatals := hmove.fatals hattributed₁.mild
    cases hfail
    cases hstep
    cases error with
    | invalidLifecycle => exact absurd rfl hvalid
    | handshake cause => exact .inr ⟨cause, rfl⟩
    | transport cause =>
      refine .inl ?_
      obtain ⟨added, rfl⟩ := hmove.suffix
      rw [Log.fatals_append, List.append_left_inj] at hfatals
      have hmem : cause ∈ Log.fatals added := by
        rw [hfatals]
        exact List.mem_singleton_self _
      obtain ⟨e, hmem, hfatal⟩ := List.mem_filterMap.1 hmem
      obtain ⟨after, before, rfl⟩ := List.append_of_mem hmem
      refine ⟨e, before ++ h₁, cause, ⟨?_, ?_⟩, hfatal, rfl⟩
      · rw [List.append_assoc, List.cons_append]
        exact (List.suffix_append _ _).trans ((List.suffix_cons _ _).trans (List.suffix_cons _ _))
      · exact hpath.suffix.trans (List.suffix_append _ _)

/-- A step in which a poll fails, or a send with anything but a rejection,
fails with that error unless a shutdown closes it, and the command whose own
report it was is answered with the first error of its reports. No other
transport error fails a step. -/
theorem terminal_transport_errors {step : WorkerStep} (hrun : Run h s) (hexec : Prog.Exec (stepRuntime s) h h' s' step) :
    (∀ e h₀ error, Within h e h₀ h' → fatalError e = some error → Ended error h h' step ∧
      ∀ mark, markOf h₀ e = some mark → ∃ failure, failure.transportError = firstRefusal h'.marks ∧
        ∀ completion, CommandReceiver.deliverProgress ⟨some completion⟩ step.progress =
          (.ok (), ⟨none⟩, [⟨completion, .error failure⟩])) ∧
    ∀ error progress, step = .failed error progress →
      (∃ e h₀ cause, Within h e h₀ h' ∧ fatalError e = some cause ∧ error = .transport cause) ∨
        ∃ cause, error = .handshake cause := by
  have heffect := hexec.post (stepRuntime_spec _ _ hrun.coherent)
  refine ⟨?_, ?_⟩
  · intro e h₀ error hwithin hfatal
    obtain ⟨hended, hanswers⟩ := heffect.fatal hrun.attributed hwithin hfatal
    refine ⟨hended, ?_⟩
    intro mark hmark
    obtain ⟨failure, hresult, hfailure⟩ := hanswers mark hmark
    refine ⟨failure, hfailure, ?_⟩
    intro completion
    unfold CommandReceiver.deliverProgress
    rw [hresult]
    rfl
  · rintro error progress rfl
    exact heffect.failed_cause hrun.attributed

/-! ## A sample loss -/

def sampleLoss : TransportError := ⟨.sourceTerminated, none⟩

/-- The transport is gone when the report of a press is sent. -/
def losing : Nat → (op : Op) → Op.Ans .pro .direct op
  | _, .sendInterrupt _ => .error sampleLoss
  | n, op => scripted .ZERO (fun _ => some (.input (.direct (.common (.press [sampleButton]))))) (fun _ => []) n op

def sampleLosing : Log .pro .direct × Frame .pro .direct × WorkerStep := playStep losing sampleReady

theorem sampleLosing_exec : Prog.Exec (stepRuntime sampleReady.2) sampleReady.1 sampleLosing.1 sampleLosing.2.1
    sampleLosing.2.2 := by
  unfold sampleLosing
  exact playStep_exec _ _

/-- The sample press fails with the error its report met, and so does the worker. -/
theorem terminal_transport_errors_sample : ∃ error failure, error.kind = .sourceTerminated ∧
    Ended error sampleReady.1 sampleLosing.1 sampleLosing.2.2 ∧
    failure.transportError = firstRefusal sampleLosing.1.marks ∧
    CommandReceiver.deliverProgress ⟨some 7⟩ sampleLosing.2.2.progress = (.ok (), ⟨none⟩, [⟨7, .error failure⟩]) := by
  have hsent : (match sampleLosing.1.drop 2 with
    | e :: h₀ => decide ((fatalError e).map TransportError.kind = some .sourceTerminated ∧
        (markOf h₀ e).isSome = true ∧ sampleReady.1.length ≤ h₀.length)
    | [] => false) = true := by decide +kernel
  split at hsent
  · rename_i e h₀ hlog
    obtain ⟨hfatal, hmark, hlength⟩ := of_decide_eq_true hsent
    obtain ⟨error, hfatal, hkind⟩ := Option.map_eq_some_iff.1 hfatal
    obtain ⟨mark, hmark⟩ := Option.isSome_iff_exists.1 hmark
    have hsuffix : e :: h₀ <:+ sampleLosing.1 := hlog ▸ List.drop_suffix 2 _
    have hwithin : Within sampleReady.1 e h₀ sampleLosing.1 := by
      refine ⟨hsuffix, ?_⟩
      exact List.suffix_of_suffix_length_le sampleLosing_exec.suffix ((List.suffix_cons _ _).trans hsuffix) hlength
    obtain ⟨hended, hanswers⟩ := (terminal_transport_errors sampleReady_run sampleLosing_exec).1 e h₀ _ hwithin hfatal
    obtain ⟨failure, hfailure, hdelivered⟩ := hanswers mark hmark
    exact ⟨error, failure, hkind, hended, hfailure, hdelivered 7⟩
  · cases hsent

end Swbt
