import Mathlib.Data.List.Basic
import Swbt.Controller.Failures
import Swbt.Runtime.Completion
/-!
# Failed creations

The responses and the log of a worker say what its owner hears and what the
outcome of its thread is, so that every failed creation is one of those whose
error lists each failure once, or has lost its key store, or a panic.
-/

set_option autoImplicit false

open Effects

namespace Swbt

variable {m : ControllerKind} {r : ReportingKind} {answer : PairAnswer} {ending : ThreadEnd}

/-! ## Responses of a run -/

variable {owner : List Response → Log m r → Log m r → Prop} {h h₁ h' : Log m r} {s s' : Frame m r}
  {receiver receiver₁ receiver' : CommandReceiver} {sent more : List Response}

theorem delivered_result {progress : StepProgress} {outcome : Except CommandDeliveryError Unit}
    (hdelivered : receiver.deliverProgress progress = (outcome, receiver', more)) :
    ∀ response ∈ more, progress.commandResult = some response.result := by
  unfold CommandReceiver.deliverProgress at hdelivered
  cases hresult : progress.commandResult with
  | none =>
    rw [hresult] at hdelivered
    cases hdelivered
    exact fun response hmem => nomatch hmem
  | some result =>
    rw [hresult] at hdelivered
    unfold CommandReceiver.deliverCompletion CommandReceiver.deliver at hdelivered
    cases hflight : receiver.inFlight with
    | none =>
      rw [hflight] at hdelivered
      cases hdelivered
      exact fun response hmem => nomatch hmem
    | some completion =>
      rw [hflight] at hdelivered
      cases hdelivered
      intro response hmem
      rw [List.mem_singleton.1 hmem]

theorem Frame.fresh_unblamed (s : Frame m r) : s.fresh.Unblamed := fun _ hresult => nomatch hresult

theorem Run.unblamed {progress : StepProgress} (hrun : Run h s)
    (hexec : Prog.Exec (stepRuntime s) h h' s' (.continue progress)) :
    ∀ result, progress.commandResult = some result → blamesWorker result = false := by
  obtain ⟨s₁, hpath, hsound, rfl, rfl⟩ := (hexec.post (stepRuntime_spec _ _ hrun.coherent)).of_continue
  exact hpath.unblamed s.fresh_unblamed

/-- As long as the worker goes on, no response tells of its end. -/
theorem Serving.unblamed (hserving : Serving owner h s receiver sent) :
    ∀ response ∈ sent, blamesWorker response.result = false := by
  induction hserving with
  | opened hnew => exact fun response hmem => nomatch hmem
  | turn hserving hturn ih =>
    cases hturn with
    | delivered hexec howner hfetched hdelivered =>
      intro response hmem
      rcases List.mem_append.1 hmem with hmem | hmem
      · exact ih response hmem
      · exact hserving.run.unblamed hexec _ (delivered_result hdelivered response hmem)

/-! ## Fatal errors of a run -/

theorem harmless_of_fatals (hnone : h.fatals = []) : ∀ e ∈ h, fatalError e = none := List.filterMap_eq_nil_iff.1 hnone

theorem keyStoreLost_cons {e : LogEvent m r} (hmild : fatalError e = none) : KeyStoreLost (e :: h) ↔ KeyStoreLost h := by
  constructor
  · rintro ⟨met, hmem, hpending, hkind⟩
    rcases List.mem_cons.1 hmem with rfl | hmem
    · rw [hmild] at hkind
      cases hkind
    · exact ⟨met, hmem, hpending, hkind⟩
  · rintro ⟨met, hmem, hpending, hkind⟩
    exact ⟨met, List.mem_cons_of_mem e hmem, hpending, hkind⟩

variable {added : Log m r} {command : Option ConnectionCommandKind}

/-- A key-store error that the log did not have before is met with the command pending. -/
theorem KeyStoreLost.met (hlost : KeyStoreLost (added ++ h)) (hmild : ∀ e ∈ h, fatalError e = none)
    (hmet : ∀ e ∈ added, MetWith command e) :
    command.isSome = true ∧ ∃ source ∈ Log.fatals added, source.kind = .invalidKeyStore := by
  obtain ⟨e, hmem, hpending, hkind⟩ := hlost
  obtain ⟨source, hfatal, hkind⟩ := Option.map_eq_some_iff.1 hkind
  rcases List.mem_append.1 hmem with hadded | hbefore
  · rcases hmet e hadded with hnone | hsame
    · rw [hfatal] at hnone
      cases hnone
    · rw [hsame] at hpending
      exact ⟨hpending, source, List.mem_filterMap.2 ⟨e, hadded, hfatal⟩, hkind⟩
  · rw [hmild e hbefore] at hfatal
    cases hfatal

theorem KeyStoreLost.of_met {source : TransportError} (hmem : source ∈ Log.fatals added)
    (hkind : source.kind = .invalidKeyStore) (hmet : ∀ e ∈ added, MetWith command e) (hpending : command.isSome = true) :
    KeyStoreLost (added ++ h) := by
  obtain ⟨e, hadded, hfatal⟩ := List.mem_filterMap.1 hmem
  refine ⟨e, List.mem_append_left _ hadded, ?_, ?_⟩
  · rcases hmet e hadded with hnone | hsame
    · rw [hfatal] at hnone
      cases hnone
    · rw [hsame]
      exact hpending
  · rw [hfatal]
    exact congrArg some hkind

theorem failureOf_keyStore {error : WorkerCoreError} :
    failureOf error = .invalidKeyStore ↔ ∃ source ∈ error.transportError.toList, source.kind = .invalidKeyStore := by
  cases error with
  | invalidLifecycle => simp [failureOf, WorkerCoreError.transportError]
  | handshake source => simp [failureOf, WorkerCoreError.transportError]
  | transport source => simp [failureOf, WorkerCoreError.transportError]

/-- A failing worker answers the connection command that is pending with its failure. -/
theorem Frame.fail_pending (s : Frame m r) (error : WorkerCoreError) {command : ConnectionCommandKind}
    (hpending : s.connectionCommandPending = some command) :
    (s.fail error).progress.commandResult = some (.error (.connection ⟨command, failureOf error⟩)) := by
  unfold Frame.fail Frame.completeFailure Frame.complete
  rw [hpending]
  rfl

theorem Frame.fail_idle (s : Frame m r) (error : WorkerCoreError) (hidle : s.connectionCommandPending = none) :
    (s.fail error).progress = s.progress := by
  unfold Frame.fail Frame.completeFailure
  rw [hidle]

theorem blamesWorker_of_tells {result : CommandResult} (htells : tellsKeyStoreLost result = true) :
    blamesWorker result = true := by
  unfold tellsKeyStoreLost at htells
  split at htells
  · rfl
  · cases htells

theorem tellsKeyStoreLost_connection {command : ConnectionCommandKind} {failure : ConnectionCommandFailure}
    (htells : tellsKeyStoreLost (.error (.connection ⟨command, failure⟩)) = true) : failure = .invalidKeyStore := by
  cases failure with
  | invalidKeyStore => rfl
  | _ => cases htells

/-- The key-store error of a failed step is the one it failed with. -/
theorem StepEffect.keyStore {error : WorkerCoreError} {progress : StepProgress} (hrun : Run h s)
    (he : StepEffect h s h' s' (.failed error progress)) :
    (KeyStoreLost h' → ∃ command, progress.commandResult = some (.error (.connection ⟨command, .invalidKeyStore⟩))) ∧
      ∀ result, progress.commandResult = some result → tellsKeyStoreLost result = true → KeyStoreLost h' := by
  obtain ⟨h₁, s₁, h₂, s₂, hpath, hsound₁, hmove, hsound, rfl, rfl, rfl⟩ := he.of_failed
  -- All that is fatal in the log is what the last move of the step has met.
  have hmild := harmless_of_fatals ((hpath.fatals hrun.attributed).trans hrun.fatals)
  have hfatals := hmove.fatals (hpath.attributed hrun.attributed).mild
  obtain ⟨⟨added, rfl, hmet⟩, hkept⟩ := hmove.metWith hsound₁
  rw [Log.fatals_append, List.append_left_inj] at hfatals
  rw [keyStoreLost_cons rfl, keyStoreLost_cons rfl]
  constructor
  · intro hlost
    obtain ⟨hpending, source, hmem, hkind⟩ := hlost.met hmild hmet
    rw [hfatals] at hmem
    rw [← hkept] at hpending
    obtain ⟨command, hcommand⟩ := Option.isSome_iff_exists.1 hpending
    refine ⟨command, ?_⟩
    rw [s₂.fail_pending error hcommand, failureOf_keyStore.2 ⟨source, hmem, hkind⟩]
  · intro result hsome htells
    cases hpending : s₂.connectionCommandPending with
    | none =>
      rw [s₂.fail_idle error hpending] at hsome
      have hnot := hmove.unblamed hsound₁ (hpath.unblamed s.fresh_unblamed) result hsome
      rw [blamesWorker_of_tells htells] at hnot
      cases hnot
    | some command =>
      cases hsome.symm.trans (s₂.fail_pending error hpending)
      obtain ⟨source, hmem, hkind⟩ := failureOf_keyStore.1 (tellsKeyStoreLost_connection htells)
      refine .of_met (hfatals ▸ hmem) hkind hmet ?_
      rw [← hkept, hpending]
      rfl

/-- An event of an end: it neither meets a fatal error nor takes a shutdown. -/
structure Harmless (e : LogEvent m r) : Prop where
  mild : fatalError e = none
  unasked : takesShutdown e = false

theorem Cleaned.harmless {sequence : CleanupSequence} {connected publish : Bool} {nowNs : UInt64}
    {completion : CloseCompletion} (hc : Cleaned sequence connected nowNs publish h s h' s' completion)
    (hmode : sequence.mode = .withoutNeutral) : Adds Harmless h h' := by
  refine hc.events.mono ?_
  intro e hevent
  cases hevent with
  | report hneutral hclosing =>
    rw [hmode] at hneutral
    cases hneutral
  | _ => exact ⟨rfl, rfl⟩

theorem AbandonEffect.harmless {cause : WorkerFailureCause} {failure : Option CleanupFailure}
    (ha : AbandonEffect cause h s h' s' failure) : Adds Harmless h h' := by
  cases ha with
  | cleaned hcleaned =>
    refine Adds.trans (Adds.cons (Adds.single ?_) ?_) (hcleaned.harmless rfl)
    · exact ⟨rfl, rfl⟩
    · exact ⟨rfl, rfl⟩

theorem CloseEffect.harmless {t : Duration} {step : WorkerStep}
    (hc : CloseEffect (.explicit .withoutNeutral) t h s h' s' step) : Adds Harmless h h' := by
  cases hc with
  | closed hcleaned => exact (hcleaned.harmless rfl).cons ⟨rfl, rfl⟩

theorem KeyStoreLost.before (hlost : KeyStoreLost h') (hadds : Adds Harmless h h') : KeyStoreLost h := by
  obtain ⟨e, hmem, hpending, hkind⟩ := hlost
  obtain ⟨added, rfl, hall⟩ := hadds
  rcases List.mem_append.1 hmem with hmem | hmem
  · rw [(hall e hmem).mild] at hkind
    cases hkind
  · exact ⟨e, hmem, hpending, hkind⟩

theorem KeyStoreLost.later (hlost : KeyStoreLost h) (hsuffix : h <:+ h') : KeyStoreLost h' := by
  obtain ⟨e, hmem, hpending, hkind⟩ := hlost
  exact ⟨e, hsuffix.subset hmem, hpending, hkind⟩

theorem not_keyStoreLost (hharmless : ∀ e ∈ h, fatalError e = none) : ¬ KeyStoreLost h := by
  rintro ⟨e, hmem, -, hkind⟩
  rw [hharmless e hmem] at hkind
  cases hkind

/-! ## What a log shows -/

theorem Log.cleanupFailures_cons (e : LogEvent m r) (h : Log m r) :
    Log.cleanupFailures (e :: h) = h.cleanupFailures ++ (cleanupFailure e).toList := by
  unfold cleanupFailures
  rw [List.reverse_cons, List.filterMap_append]
  cases hfailure : cleanupFailure e <;> simp [hfailure]

theorem Living.current {e : LogEvent m r} (hliving : Living e) : e.state.lifecycle.current ≠ .closing :=
  fun hcurrent => hliving.alive (congrArg LifecycleStateMachine.mk hcurrent)

/-- A worker that lives has not begun a cleanup. -/
theorem cleanupFailures_living (hall : ∀ e ∈ h, Living e) : h.cleanupFailures = [] := by
  refine List.filterMap_eq_nil_iff.2 ?_
  intro e hmem
  exact if_neg (hall e (List.mem_reverse.1 hmem)).current

/-- The transport failures of a worker that lives, or of one that has ended. -/
theorem transportFailures_of_living (hall : ∀ e ∈ h, Living e) (hadds : Adds (fun e => fatalError e = none) h h') :
    h'.transportFailures = h.fatals.reverse.map fun source => .terminal (.core (.transport source)) := by
  obtain ⟨added, rfl, hadded⟩ := hadds
  have hafter : added.reverse.filterMap transportFailure = [] := by
    refine List.filterMap_eq_nil_iff.2 ?_
    intro e hmem
    unfold transportFailure
    rw [hadded e (List.mem_reverse.1 hmem)]
    split <;> rfl
  unfold Log.transportFailures Log.fatals
  rw [List.reverse_append, List.filterMap_append, hafter, List.append_nil, ← List.filterMap_reverse,
    List.map_filterMap]
  refine List.filterMap_congr ?_
  intro e hmem
  unfold transportFailure
  rw [if_neg (hall e (List.mem_reverse.1 hmem)).current]

variable {failure : Option CleanupFailure}

/-- A phase of a cleanup that keeps the first of its failures. -/
theorem keeps_phase (hkeeps : failure = h.cleanupFailures.head?) {e : LogEvent m r} {phase : CleanupPhase}
    {result : TransportResult Unit} (hclosing : e.state.lifecycle = ⟨.closing⟩)
    (hphase : cleanupPhase e = some (phase, result)) :
    CleanupSequence.recordFirstFailure failure phase result = (Log.cleanupFailures (e :: h)).head? := by
  rw [hkeeps, recordFirstFailure_head, Log.cleanupFailures_cons]
  unfold cleanupFailure
  rw [if_pos (by rw [hclosing]), hphase]
  rfl

theorem Log.cleanupFailures_other {e : LogEvent m r} (hnone : cleanupPhase e = none) :
    Log.cleanupFailures (e :: h) = h.cleanupFailures := by
  have hquiet : cleanupFailure e = none := by
    unfold cleanupFailure
    rw [hnone]
    exact ite_self _
  rw [Log.cleanupFailures_cons, hquiet]
  exact List.append_nil _

theorem keeps_published (hkeeps : failure = h.cleanupFailures.head?) (publish : Bool) (s : Frame m r)
    (call : StatusCall m) : failure = (Log.cleanupFailures (published publish s call h)).head? := by
  cases publish with
  | false => exact hkeeps
  | true => exact hkeeps.trans (congrArg List.head? (Log.cleanupFailures_other rfl)).symm

/-- A cleanup keeps the first failure of its phases. -/
theorem Cleaned.keeps {sequence : CleanupSequence} {connected publish : Bool} {nowNs : UInt64}
    {completion : CloseCompletion} (hc : Cleaned sequence connected nowNs publish h s h' s' completion)
    (halive : s.lifecycle ≠ ⟨.closing⟩) (hnone : h.cleanupFailures = []) :
    completion.performed = true ∧ completion.firstFailure = h'.cleanupFailures.head? := by
  have hbegin : none = h.cleanupFailures.head? := by
    rw [hnone]
    rfl
  cases hc with
  | closing hclosing => exact absurd (congrArg LifecycleStateMachine.mk hclosing) halive
  | performed hlive hneutral hdrained =>
    rename_i h₁ h₂ failure₁ failure₂ disconnected closed
    have hstart := keeps_published hbegin publish { s with lifecycle := ⟨.closing⟩ } (.setLifecycle .closing)
    have hsent : failure₁ = h₁.cleanupFailures.head? ∧ s'.lifecycle = ⟨.closing⟩ := by
      cases hneutral with
      | skipped hwanted => exact ⟨hstart, rfl⟩
      | sent hwanted hsent =>
        cases hsent with
        | refused error => exact ⟨keeps_phase hstart rfl rfl, rfl⟩
        | accepted =>
          refine ⟨?_, rfl⟩
          rw [Log.cleanupFailures_other rfl]
          exact keeps_phase hstart rfl rfl
    obtain ⟨hsent, hclosing⟩ := hsent
    have hdrain : failure₂ = h₂.cleanupFailures.head? := by
      cases hdrained with
      | skipped hwanted => exact hsent
      | drained hwanted => exact keeps_phase hsent hclosing rfl
    have hdisconnected := keeps_phase hdrain (e := .call s' Op.disconnect disconnected) hclosing rfl
    exact ⟨rfl, keeps_published (keeps_phase hdisconnected (e := .call s' Op.close closed) hclosing rfl) publish s' _⟩

theorem AbandonEffect.keeps {cause : WorkerFailureCause} (ha : AbandonEffect cause h s h' s' failure)
    (halive : s.lifecycle ≠ ⟨.closing⟩) (hnone : h.cleanupFailures = []) : failure = h'.cleanupFailures.head? := by
  cases ha with
  | cleaned hcleaned =>
    obtain ⟨hperformed, hkeeps⟩ := hcleaned.keeps halive (by
      rw [Log.cleanupFailures_other rfl, Log.cleanupFailures_other rfl, hnone])
    rw [if_pos hperformed]
    exact hkeeps

theorem CloseEffect.keeps {request : ShutdownRequest} {t : Duration} {completion : CloseCompletion}
    {interrupted : Option WorkerCommandError} {progress : StepProgress}
    (hc : CloseEffect request t h s h' s' (.closed completion interrupted progress))
    (halive : s.lifecycle ≠ ⟨.closing⟩) (hnone : h.cleanupFailures = []) :
    completion.firstFailure = h'.cleanupFailures.head? := by
  cases hc with
  | closed hcleaned =>
    rw [← s.shut_settled.lifecycle] at halive
    rw [Log.cleanupFailures_other rfl]
    exact (hcleaned.keeps halive hnone).2

/-! ## Ends of the loop -/

variable {timeout : Duration} {cause : WorkerFailureCause} {delivery : Option CommandDeliveryError}
  {completion : WorkerCompletion}

/-- The first response tells of the end of the worker by a key-store error. -/
def TellsStoreLost (sent : List Response) : Prop :=
  ∃ response, sent.head? = some response ∧ tellsKeyStoreLost response.result = true

theorem not_tellsStoreLost (hunblamed : ∀ response ∈ sent, blamesWorker response.result = false) :
    ¬ TellsStoreLost sent := by
  rintro ⟨response, hhead, htells⟩
  have hnot := hunblamed response (List.mem_of_mem_head? hhead)
  rw [blamesWorker_of_tells htells] at hnot
  cases hnot

/-- At most the Pair command is taken, and there is at most one response. -/
structure Tallied (timeout : Duration) (h : Log m r) (sent : List Response) : Prop where
  commands : h.commands = [] ∨ fitsProtocolTimestamp timeout = true ∧ h.commands = [.pair timeout]
  count : sent.length ≤ h.commands.length

theorem Owes.count (howes : Owes h s receiver sent) : sent.length ≤ h.commands.length := by
  by_cases hengaged : s.Engaged
  · rw [(howes.busy hengaged).2]
    exact Nat.le_succ _
  · exact (howes.idle hengaged).2.ge

theorem PairsOnly.length_le (hpairs : PairsOnly timeout sent h h') : h'.commands.length ≤ 1 := by
  rcases hpairs.commands with hnone | ⟨-, hone⟩
  · rw [hnone]
    exact Nat.zero_le 1
  · rw [hone]
    exact le_rfl

theorem Tallied.later (htallied : Tallied timeout h sent) (hadds : Adds Plain h h') : Tallied timeout h' sent := by
  have hsame := Adds.commands (Adds.untaken hadds)
  refine ⟨?_, ?_⟩
  · rw [hsame]
    exact htallied.commands
  · rw [hsame]
    exact htallied.count

theorem Broken.tallied (hbroken : Broken (PairsOnly timeout) h s receiver sent cause delivery) :
    Tallied timeout h sent := by
  cases hbroken with
  | failed hserving hexec howner hfetched hdelivered =>
    obtain ⟨howes, hunanswered, hprogress⟩ := hfetched.failed hserving.owes hserving.run hexec
    exact ⟨howner.commands, (howes.deliver hunanswered hprogress hdelivered).2.1.count⟩
  | undelivered hserving hexec howner hfetched hdelivered =>
    obtain ⟨howes, hunanswered, hprogress⟩ := hfetched.continued hserving.owes hserving.run hexec
    exact ⟨howner.commands, (howes.deliver hunanswered hprogress hdelivered).2.1.count⟩
  | unwaited hserving hturn =>
    have howes := hturn.owes hserving.run hserving.owes
    cases hturn with
    | delivered hexec howner hfetched hdelivered => exact ⟨howner.commands, howes.count⟩

/-- The worker has failed for a key-store error that the Pair command was told of, or for neither. -/
theorem Broken.keyStore (hbroken : Broken (PairsOnly timeout) h s receiver sent cause delivery) :
    KeyStoreLost h ↔ TellsStoreLost sent := by
  cases hbroken with
  | failed hserving hexec howner hfetched hdelivered =>
    obtain ⟨howes, hunanswered, hprogress⟩ := hfetched.failed hserving.owes hserving.run hexec
    obtain ⟨-, -, hmore⟩ := howes.deliver hunanswered hprogress hdelivered
    obtain ⟨hlost, htells⟩ := StepEffect.keyStore hserving.run (hexec.post (stepRuntime_spec _ _ hserving.run.coherent))
    rename_i before more _
    constructor
    · intro hkey
      obtain ⟨command, hresult⟩ := hlost hkey
      have hengaged : s.Engaged := by
        refine .inr (.inr ?_)
        rw [← hprogress, hresult]
        exact Option.some_ne_none _
      have hnone : before = [] := by
        have hlength := howner.length_le
        rw [(howes.busy hengaged).2] at hlength
        exact List.length_eq_zero_iff.1 (Nat.le_zero.1 (Nat.le_of_succ_le_succ hlength))
      rw [hresult] at hmore
      obtain ⟨response, rfl, hsame⟩ := List.map_eq_singleton_iff.1 hmore
      refine ⟨response, ?_, ?_⟩
      · rw [hnone]
        rfl
      · rw [hsame]
        rfl
    · rintro ⟨response, hhead, htold⟩
      rcases List.mem_append.1 (List.mem_of_mem_head? hhead) with hmem | hmem
      · have hnot := hserving.unblamed response hmem
        rw [blamesWorker_of_tells htold] at hnot
        cases hnot
      · exact htells _ (delivered_result hdelivered response hmem) htold
  | undelivered hserving hexec howner hfetched hdelivered =>
    refine iff_of_false (not_keyStoreLost (harmless_of_fatals (Run.step hserving.run hexec).fatals))
      (not_tellsStoreLost ?_)
    intro response hmem
    rcases List.mem_append.1 hmem with hmem | hmem
    · exact hserving.unblamed response hmem
    · exact hserving.run.unblamed hexec _ (delivered_result hdelivered response hmem)
  | unwaited hserving hturn =>
    have hlater := hserving.turn hturn
    exact iff_of_false (not_keyStoreLost (harmless_of_fatals hlater.run.fatals)) (not_tellsStoreLost hlater.unblamed)

/-- A worker whose loop has broken off has neither closed nor been asked to. -/
theorem Broken.living (hbroken : Broken owner h s receiver sent cause delivery) :
    s.lifecycle ≠ ⟨.closing⟩ ∧ ∀ e ∈ h, Living e := by
  cases hbroken with
  | failed hserving hexec howner hfetched hdelivered =>
    obtain ⟨h₁, s₁, h₂, s₂, hpath, hsound₁, hmove, hsound, rfl, rfl, rfl⟩ :=
      (hexec.post (stepRuntime_spec _ _ hserving.run.coherent)).of_failed
    obtain ⟨halive, hall⟩ := hserving.run.living
    obtain ⟨halive₁, hadds₁⟩ := hpath.deeds.living halive
    obtain ⟨halive₂, hadds₂⟩ := (hmove.deeds hsound₁).living halive₁
    rename_i error _ _ _ _ _
    have hcurrent : (s₂.fail error).lifecycle = ⟨.failed⟩ := rfl
    have hfailed := alive_of_current hcurrent (by decide)
    refine ⟨hfailed, List.forall_mem_cons.2 ⟨⟨hfailed, rfl⟩, List.forall_mem_cons.2 ⟨⟨halive₂, rfl⟩, ?_⟩⟩⟩
    exact (hadds₁.trans hadds₂).all hall
  | undelivered hserving hexec howner hfetched hdelivered => exact (Run.step hserving.run hexec).living
  | unwaited hserving hturn => exact (hserving.turn hturn).run.living

/-- The cause of a loop that has broken off is all there is to tell of. -/
theorem Broken.caused (hbroken : Broken owner h s receiver sent cause delivery) :
    cause.unseen ++ h.transportFailures = [.terminal cause] := by
  rw [transportFailures_of_living hbroken.living.2 .refl]
  cases hbroken with
  | failed hserving hexec howner hfetched hdelivered =>
    obtain ⟨h₁, s₁, h₂, s₂, hpath, hsound₁, hmove, hsound, rfl, rfl, rfl⟩ :=
      (hexec.post (stepRuntime_spec _ _ hserving.run.coherent)).of_failed
    have hattributed := hserving.run.attributed
    rw [Log.fatals_cons rfl, Log.fatals_cons rfl, hmove.fatals (hpath.attributed hattributed).mild,
      hpath.fatals hattributed, hserving.run.fatals]
    rename_i error _ _ _ _ _
    cases error <;> rfl
  | undelivered hserving hexec howner hfetched hdelivered =>
    rw [(Run.step hserving.run hexec).fatals]
    rfl
  | unwaited hserving hturn =>
    rw [(hserving.turn hturn).run.fatals]
    rfl

/-- A worker that has not been asked to close has put off no failure. -/
theorem not_superseded (hall : ∀ e ∈ h, takesShutdown e = false) : ¬ Superseded h := by
  rintro ⟨e, h₀, hsuffix, htakes, -⟩
  rw [hall e (hsuffix.subset List.mem_cons_self)] at htakes
  cases htakes

/-- What a worker that closes without neutral has met of the transport, and what comes of its cleanup. -/
theorem CloseEffect.shown {completion : CloseCompletion} {t : Duration} {interrupted : Option WorkerCommandError}
    {progress : StepProgress}
    (hc : CloseEffect (.explicit .withoutNeutral) t
      (.call s Op.now t :: .call s Op.takeShutdown (some (.explicit .withoutNeutral)) :: h) s h' s'
      (.closed completion interrupted progress))
    (halive : s.lifecycle ≠ ⟨.closing⟩) (hall : ∀ e ∈ h, Living e) :
    completion.firstFailure = h'.cleanupFailures.head? ∧ (h'.transportFailures = [] ↔ ¬ Superseded h') := by
  refine ⟨hc.keeps halive ?_, ?_⟩
  · rw [Log.cleanupFailures_other rfl, Log.cleanupFailures_other rfl, cleanupFailures_living hall]
  · have hshut : Superseded h' ↔ h.fatals ≠ [] := by
      constructor
      · rintro ⟨e, h₀, hsuffix, htakes, hfatal⟩
        have hbefore := hc.harmless.before hsuffix fun hharmless => by
          rw [hharmless.unasked] at htakes
          cases htakes
        rcases List.suffix_cons_iff.1 hbefore with heq | hbefore
        · cases heq
          cases htakes
        · rcases List.suffix_cons_iff.1 hbefore with heq | hbefore
          · cases heq
            exact hfatal
          · rw [(hall e (hbefore.subset List.mem_cons_self)).unasked] at htakes
            cases htakes
      · intro hfatal
        exact ⟨_, h, (List.suffix_cons _ _).trans hc.harmless.suffix, rfl, hfatal⟩
    have hasked : Adds (fun e => fatalError e = none) h
        (.call s Op.now t :: .call s Op.takeShutdown (some (.explicit .withoutNeutral)) :: h) :=
      .cons (.single rfl) rfl
    have hmild := hasked.trans (hc.harmless.mono fun e hharmless => hharmless.mild)
    rw [transportFailures_of_living hall hmild, hshut, not_not, List.map_eq_nil_iff, List.reverse_eq_nil_iff]

/-- A worker closes when the pairing is over, and is not told of again. -/
structure Over (timeout : Duration) (h : Log m r) (sent : List Response) (close : CloseCompletion) : Prop where
  performed : close.performed = true
  firstFailure : close.firstFailure = h.cleanupFailures.head?
  shown : h.transportFailures = [] ↔ ¬ Superseded h
  tallied : Tallied timeout h sent
  keyStore : ¬ KeyStoreLost h
  unblamed : ∀ response ∈ sent, blamesWorker response.result = false
  finished : fitsProtocolTimestamp timeout = false ∨ ∃ completion error, sent = [⟨completion, .error error⟩]

theorem LoopEnd.closed_over {close : CloseCompletion} {delivery : Option CommandDeliveryError}
    (hend : LoopEnd (PairsOnly timeout) h receiver sent ⟨.closed close, delivery⟩) : Over timeout h sent close := by
  cases hend with
  | closed hserving hexec howner hfetched hdelivered =>
    rename_i h₀ s s' interrupted progress receiver₀ receiver₁ before more
    have heffect := hexec.post (stepRuntime_spec _ _ hserving.run.coherent)
    obtain ⟨-, -, -, -, -, hperformed, -⟩ := heffect.shutDown hserving.run.uncleaned
    obtain ⟨h₁, s₁, h₂, s₂, request, t, hpath, hsound₁, hlast, hsound, hclose⟩ := heffect.of_closed
    have hplain := ((Adds.single (P := Plain) (e := .call s₂ Op.takeShutdown (some request)) (h := h₂) ⟨rfl, rfl⟩).cons
      (e := .call s₂ Op.now t) ⟨rfl, rfl⟩).trans hclose.plain
    have hbefore := hpath.suffix.trans hlast.suffix
    obtain ⟨rfl, hover⟩ := howner.shutdown s₂ request h₂ (((List.suffix_cons _ _).trans hclose.plain.suffix)) hbefore
    have howes := hfetched.owes_last hserving.owes hpath hsound₁ hlast (Adds.untaken hplain)
    obtain ⟨rfl, hprogress⟩ := hclose.delivers
    obtain ⟨-, -, -, hcount, -⟩ := howes.deliverClosed hsound hprogress hdelivered
    -- The pairing was over, so nothing was in flight and nothing is sent.
    have hidle : ¬ s₂.Engaged ∧ more = [] := by
      rcases hover with hout | ⟨completion, error, rfl⟩
      · have hnone : h.commands = [] := howner.commands.resolve_right fun hin => by
          rw [hout] at hin
          cases hin.1
        rw [hnone] at hcount
        refine ⟨fun hengaged => ?_, (List.append_eq_nil_iff.1 (List.length_eq_zero_iff.1 hcount.symm)).2⟩
        have hbusy := (howes.busy hengaged).2
        rw [hnone] at hbusy
        cases hbusy
      · have hlength := howner.length_le
        refine ⟨fun hengaged => ?_, ?_⟩
        · rw [(howes.busy hengaged).2, List.length_singleton] at hlength
          exact absurd hlength (by decide)
        · rw [hcount, List.length_append] at hlength
          exact List.length_eq_zero_iff.1 (Nat.le_zero.1 (Nat.le_of_add_le_add_left hlength))
    obtain ⟨hidle, rfl⟩ := hidle
    rw [List.append_nil] at hcount ⊢
    obtain ⟨halive, hall⟩ := hserving.run.living
    obtain ⟨halive₂, hadds₂⟩ := Deeds.living (hpath.deeds.trans (hlast.deeds hsound₁)) halive
    obtain ⟨hfirst, hshown⟩ := hclose.shown halive₂ (hadds₂.all hall)
    refine ⟨hperformed, hfirst, hshown, ⟨howner.commands, hcount.ge⟩, ?_, hserving.unblamed, hover⟩
    -- A transport error after the answer finds no connection command pending.
    intro hkey
    have hmild := harmless_of_fatals ((hpath.fatals hserving.run.attributed).trans hserving.run.fatals)
    have hasked := hkey.before hclose.harmless
    rw [keyStoreLost_cons rfl, keyStoreLost_cons rfl] at hasked
    cases hlast with
    | none => exact not_keyStoreLost hmild hasked
    | terminal hmove =>
      obtain ⟨⟨added, rfl, hmet⟩, hkept⟩ := hmove.metWith hsound₁
      obtain ⟨hpending, -⟩ := hasked.met hmild hmet
      rw [← hkept] at hpending
      exact hidle (.inl hpending)

/-- When the loop returns, the responses tell of a key-store error if there was one. -/
theorem LoopEnd.keyStore (hend : LoopEnd (PairsOnly timeout) h receiver sent completion) :
    Tallied timeout h sent ∧ (KeyStoreLost h ↔ TellsStoreLost sent) := by
  obtain ⟨terminal, delivery⟩ := completion
  cases terminal with
  | closed close =>
    have hover := hend.closed_over
    exact ⟨hover.tallied, iff_of_false hover.keyStore (not_tellsStoreLost hover.unblamed)⟩
  | failed cause cleanupError =>
    cases hend with
    | failed hbroken hexec =>
      have habandon := hexec.post (completeWorkerFailure_spec _ _ _)
      refine ⟨hbroken.tallied.later habandon.plain, ?_⟩
      rw [← hbroken.keyStore]
      exact ⟨fun hlost => hlost.before habandon.harmless, fun hlost => hlost.later hexec.suffix⟩

theorem Tallied.sent_nil (htallied : Tallied timeout h sent) (hnone : h.commands = []) : sent = [] := by
  have hcount := htallied.count
  rw [hnone] at hcount
  exact List.length_eq_zero_iff.1 (Nat.le_zero.1 hcount)

theorem Tallied.refused (htallied : Tallied timeout h sent) (hout : fitsProtocolTimestamp timeout = false) :
    h.commands = [] := by
  refine htallied.commands.resolve_right fun hin => ?_
  rw [hout] at hin
  cases hin.1

theorem PairHeard.keyStore (hheard : PairHeard timeout h sent answer) (htallied : Tallied timeout h sent) :
    answer.keyStoreLost = true ↔ TellsStoreLost sent := by
  have hempty : sent = [] → ¬ TellsStoreLost sent := by
    rintro rfl ⟨response, hhead, -⟩
    cases hhead
  cases hheard with
  | refused hout => exact iff_of_false Bool.false_ne_true (hempty (htallied.sent_nil (htallied.refused hout)))
  | disconnected hin huntaken => exact iff_of_false Bool.false_ne_true (hempty (htallied.sent_nil huntaken))
  | lost hin hnone => exact iff_of_false Bool.false_ne_true (hempty hnone)
  | result hin hsent =>
    constructor
    · exact fun htells => ⟨_, hsent, htells⟩
    · rintro ⟨response, hhead, htells⟩
      cases hsent.symm.trans hhead
      exact htells

/-- The owner of a worker that was closed has an answer of its own. -/
theorem PairHeard.closed {close : CloseCompletion} {delivery : Option CommandDeliveryError}
    (hheard : PairHeard timeout h sent answer) (hunpaired : Attempt.paired (.joined answer ending) = false)
    (hend : LoopEnd (PairsOnly timeout) h receiver sent ⟨.closed close, delivery⟩) : answer.listed ≠ [] := by
  obtain ⟨-, -, -, htallied, -, hunblamed, hover⟩ := hend.closed_over
  have hover : fitsProtocolTimestamp timeout = true → ∃ completion error, sent = [⟨completion, .error error⟩] := by
    intro hin
    refine hover.resolve_left fun hout => ?_
    rw [hin] at hout
    cases hout
  cases hheard with
  | refused hout => exact List.cons_ne_nil _ _
  | disconnected hin huntaken =>
    obtain ⟨completion, error, hsent⟩ := hover hin
    rw [htallied.sent_nil huntaken] at hsent
    cases hsent
  | lost hin hnone =>
    obtain ⟨completion, error, hsent⟩ := hover hin
    rw [hnone] at hsent
    cases hsent
  | result hin hhead =>
    obtain ⟨completion, error, rfl⟩ := hover hin
    cases hhead
    have hnot := hunblamed _ (List.mem_singleton_self _)
    cases error with
    | connection error =>
      obtain ⟨command, failure⟩ := error
      cases failure with
      | workerFailed => cases hnot
      | _ => exact List.cons_ne_nil _ _
    | _ => exact List.cons_ne_nil _ _

/-- Between the loop and the end of its thread a worker is not asked to close. -/
theorem Broken.unasked {failure : Option CleanupFailure} (hbroken : Broken owner h s receiver sent cause delivery)
    (hexec : Prog.Exec (completeWorkerFailure cause s) h h' s' failure) : ∀ e ∈ h', takesShutdown e = false := by
  have hadds := ((hexec.post (completeWorkerFailure_spec _ _ _)).harmless).mono fun e hharmless => hharmless.unasked
  exact hadds.all fun e hmem => (hbroken.living.2 e hmem).unasked

theorem LoopEnd.superseded (hend : LoopEnd (PairsOnly timeout) h receiver sent completion) :
    (∀ close, completion.terminal = .closed close → h.transportFailures = []) ↔ ¬ Superseded h := by
  obtain ⟨terminal, delivery⟩ := completion
  cases terminal with
  | closed close =>
    have hshown := hend.closed_over.shown
    exact ⟨fun hnone => hshown.1 (hnone _ rfl), fun hnot _ _ => hshown.2 hnot⟩
  | failed cause cleanupError =>
    cases hend with
    | failed hbroken hexec =>
      exact iff_of_true (fun _ hclosed => nomatch hclosed) (not_superseded (hbroken.unasked hexec))

theorem LoopEnd.regular {teardown : Bool} (hend : LoopEnd (PairsOnly timeout) h receiver sent completion) :
    ThreadEnd.Regular ⟨none, completion, teardown⟩ h := by
  obtain ⟨terminal, delivery⟩ := completion
  cases terminal with
  | closed close =>
    refine ⟨?_, hend.closed_settled.1, fun hcaught => absurd rfl hcaught, fun _ _ _ hfailed => (nomatch hfailed), ?_⟩
    · rintro close ⟨⟩
      exact hend.closed_over.performed
    · exact fun _ => hend.closed_over.firstFailure
  | failed cause cleanupError =>
    cases hend with
    | failed hbroken hexec =>
      have habandon := hexec.post (completeWorkerFailure_spec _ _ _)
      obtain ⟨halive, hall⟩ := hbroken.living
      refine ⟨fun close hclosed => (nomatch hclosed), hbroken.settled.1, fun hcaught => absurd rfl hcaught, ?_, ?_⟩
      · rintro - cause cleanupError ⟨⟩
        rw [transportFailures_of_living hall (habandon.harmless.mono fun e hharmless => hharmless.mild),
          ← transportFailures_of_living hall .refl]
        exact hbroken.caused
      · exact fun _ => habandon.keeps halive (cleanupFailures_living hall)

theorem Caught.regular (hcaught : Caught (PairsOnly timeout) h receiver sent ending.caught ending.completion) :
    ending.Regular h := by
  obtain ⟨caught, completion, teardown⟩ := ending
  cases hcaught with
  | ended hend => exact hend.regular
  | panicked hpanic hexec =>
    exact ⟨fun close hclosed => (nomatch hclosed), rfl, fun _ => ⟨_, rfl⟩, fun hended => (nomatch hended),
      fun hended => nomatch hended⟩
  | panickedAgain hpanic habort =>
    exact ⟨fun close hclosed => (nomatch hclosed), rfl, fun _ => ⟨_, rfl⟩, fun hended => (nomatch hended),
      fun hended => nomatch hended⟩

/-- A started worker whose pairing has failed. -/
theorem Caught.listedOnce (hcaught : Caught (PairsOnly timeout) h receiver sent ending.caught ending.completion)
    (hheard : PairHeard timeout h sent answer) (hunpaired : Attempt.paired (.joined answer ending) = false) :
    Attempt.ListedOnce (.joined answer ending) h ↔
      ¬ KeyStoreLost h ∧ ending.caught = none ∧ ¬ Superseded h ∧ h.cleanupFailures.length ≤ 1 := by
  have hregular := hcaught.regular
  obtain ⟨caught, completion, teardown⟩ := ending
  have hpanicked : caught ≠ none → (Attempt.ListedOnce (.joined answer ⟨caught, completion, teardown⟩) h ↔
      ¬ KeyStoreLost h ∧ caught = none ∧ ¬ Superseded h ∧ h.cleanupFailures.length ≤ 1) := by
    intro hcaught
    obtain ⟨broken, rfl⟩ := Option.ne_none_iff_exists'.1 hcaught
    rw [listedOnce_joined hregular hunpaired fun _ => hregular.blamed hcaught]
    exact iff_of_false (fun hnone => nomatch hnone.2.1) fun hnone => nomatch hnone.2.1
  cases hcaught with
  | ended hend =>
    -- An answer that leaves the error to the thread finds one there.
    have hblamed : answer.listed = [] →
        listedErrors (mapWorkerOutcome (ThreadEnd.mk none completion teardown).outcome) ≠ [] := by
      intro hnone
      obtain ⟨terminal, delivery⟩ := completion
      cases terminal with
      | closed close => exact absurd hnone (hheard.closed hunpaired hend)
      | failed cause cleanupError =>
        unfold ThreadEnd.outcome finishCompleted
        rw [listedErrors_failed]
        exact List.cons_ne_nil _ _
    obtain ⟨htallied, hkey⟩ := hend.keyStore
    rw [listedOnce_joined hregular hunpaired hblamed, hend.superseded, hkey, ← hheard.keyStore htallied,
      Bool.not_eq_true]
  | panicked hpanic hexec => exact hpanicked (Option.some_ne_none _)
  | panickedAgain hpanic habort => exact hpanicked (Option.some_ne_none _)

/-! ## Creations -/

theorem UnownedCleanup.listed (cleanup : UnownedCleanup) (primary : PublicError) :
    (withCleanupError (.single primary) cleanup.run).toList =
      [primary] ++ (cleanup.failures.map mapCleanupError).head?.toList := by
  unfold UnownedCleanup.run
  rw [← head_toList, ← cleanup.firstFailure_eq]
  cases cleanup.firstFailure with
  | none => rfl
  | some failure => rfl

theorem OpenError.listed (error : OpenError) :
    (openRuntimeOwner error).toList = error.primary ++ (error.cleanupFailures.map mapCleanupError).head?.toList := by
  cases error with
  | factory error => exact (List.append_nil _).symm
  | transport source cleanup => exact cleanup.listed _
  | unsupported cleanup => exact cleanup.listed _
  | spawn source cleanup =>
    rw [← head_toList, OpenError.cleanupFailures, ← cleanup.firstFailure_eq, openRuntimeOwner]
    cases cleanup.firstFailure with
    | none => rfl
    | some failure => rfl

/-- A worker that was not started leaves all its failures, but for the phases of the cleanup after the first. -/
theorem OpenError.listedOnce (error : OpenError) :
    Attempt.ListedOnce (.unopened error) h ↔ error.cleanupFailures.length ≤ 1 := by
  have hreports : (Attempt.failures h (.unopened error)).map Failure.report =
      error.primary ++ error.cleanupFailures.map mapCleanupError := by
    unfold Attempt.failures
    rw [List.map_append, cleanup_reports, List.map_map]
    exact congrArg (· ++ _) (List.map_id _)
  have hstands := @head_stands _ [] (error.cleanupFailures.map mapCleanupError)
  rw [List.nil_append, List.length_map] at hstands
  unfold Attempt.ListedOnce
  rw [hreports]
  constructor
  · rintro ⟨chain, ⟨⟩, hlisted⟩
    rw [error.listed] at hlisted
    exact (hstands.1 (List.append_cancel_left hlisted)).2
  · intro hone
    refine ⟨_, rfl, ?_⟩
    rw [error.listed, hstands.2 ⟨rfl, hone⟩]

/-- The error of a creation that does not get to a paired controller lists each
failure once, in the order they occurred, exactly if no key-store error has
ended the worker with the Pair command pending, its loop has not panicked, no
shutdown has taken the place of a transport error, and at most one phase of
the cleanup has failed. -/
theorem creation_lists_failures_once {attempt : Attempt} (hattempted : Attempted timeout h attempt)
    (hunpaired : attempt.paired = false) : attempt.ListedOnce h ↔
      ¬ KeyStoreLost h ∧ attempt.loopPanicked = false ∧ ¬ Superseded h ∧ (attempt.cleanupFailures h).length ≤ 1 := by
  cases hattempted with
  | unopened error =>
    rw [error.listedOnce]
    refine ⟨fun hone => ⟨?_, rfl, ?_, hone⟩, fun hone => hone.2.2.2⟩
    · rintro ⟨e, hmem, -⟩
      cases hmem
    · rintro ⟨e, h₀, hsuffix, -⟩
      cases List.suffix_nil.1 hsuffix
  | joined hcaught hheard =>
    rw [hcaught.listedOnce hheard hunpaired]
    unfold Attempt.loopPanicked
    rw [Option.isSome_eq_false_iff, Option.isNone_iff_eq_none]
    rfl

/-! ## A sample creation -/

/-- The log has the Pair command, and no shutdown. -/
def Log.pairsUnasked (timeout : Duration) (h : Log m r) : Bool :=
  (match h.commands with
  | [.pair taken] => decide (taken = timeout)
  | _ => false) && h.all fun e => !takesShutdown e

theorem Log.pairsUnasked_commands (hpairs : h.pairsUnasked timeout = true) : h.commands = [.pair timeout] := by
  have honly := (Bool.and_eq_true_iff.1 hpairs).1
  split at honly
  · rename_i taken hcommands
    rw [hcommands, of_decide_eq_true honly]
  · cases honly

theorem PairsOnly.of_unasked (hin : fitsProtocolTimestamp timeout = true) (hpairs : h'.pairsUnasked timeout = true) :
    PairsOnly timeout sent h h' := by
  refine ⟨.inr ⟨hin, Log.pairsUnasked_commands hpairs⟩, ?_⟩
  intro f request h₀ hsuffix
  cases List.all_eq_true.1 (Bool.and_eq_true_iff.1 hpairs).2 _ (hsuffix.subset List.mem_cons_self)

/-- A transport whose polls fail with an error of this kind, and that cannot be disconnected. -/
def failingPolls (kind : TransportErrorKind) : Nat → (op : Op) → Op.Ans m r op
  | _, .poll _ => .error ⟨kind, none⟩
  | _, .disconnect => .error ⟨.sourceTerminated, none⟩
  | n, op => scripted .ZERO (fun _ => none) (fun _ => []) n op

/-- The next step of the sample worker, with a failing transport. -/
def sampleCut (kind : TransportErrorKind) : Log .pro .direct × Frame .pro .direct × WorkerStep :=
  playStep (failingPolls kind) samplePairing

/-- The log once the worker has cleaned up. -/
def sampleCut.log (kind : TransportErrorKind) (cause : WorkerFailureCause) : Log .pro .direct :=
  ((completeWorkerFailure cause (sampleCut kind).2.1).run (failingPolls kind) 0 (sampleCut kind).1).1

/-- The step fails and answers the Pair command accordingly, and so does one phase of the cleanup. -/
def sampleCut.answered (kind : TransportErrorKind) : Bool :=
  (sampleCut kind).1.pairsUnasked sampleTimeout &&
  match (sampleCut kind).2.2 with
  | .failed (.transport source) progress => match progress.commandResult with
    | some (.error error) =>
      decide (source.kind = kind ∧ error.blamesWorker = true ∧
        tellsKeyStoreLost (.error error) = decide (kind = .invalidKeyStore) ∧
        (sampleCut.log kind (.core (.transport source))).cleanupFailures.length = 1)
    | _ => false
  | _ => false

/-- A creation whose transport fails in this way while the Pair command is pending. -/
theorem sampleCut_attempted {kind : TransportErrorKind} (hanswered : sampleCut.answered kind = true) :
    ∃ (h : Log .pro .direct) (error : WorkerCommandError) (source : TransportError) (completion : WorkerCompletion),
      Attempted sampleTimeout h (.joined (.result (.error error)) ⟨none, completion, true⟩) ∧
        source.kind = kind ∧ error.blamesWorker = true ∧
        tellsKeyStoreLost (.error error) = decide (kind = .invalidKeyStore) ∧ (KeyStoreLost h ↔ kind = .invalidKeyStore) ∧
        ¬ Superseded h ∧ h.cleanupFailures.length = 1 ∧
        ∃ cleanupError, completion = ⟨.failed (.core (.transport source)) cleanupError, none⟩ := by
  have hexec : Prog.Exec (stepRuntime samplePairing.2) samplePairing.1 (sampleCut kind).1 (sampleCut kind).2.1
      (sampleCut kind).2.2 := by
    unfold sampleCut
    exact playStep_exec _ _
  have hpairs : samplePairing.1.pairsUnasked sampleTimeout = true := by decide +kernel
  obtain ⟨receiver, hserving⟩ := @samplePairing_serving (PairsOnly _) (.of_unasked (by decide) hpairs)
  unfold sampleCut.answered at hanswered
  rw [Bool.and_eq_true] at hanswered
  obtain ⟨honly, hanswered⟩ := hanswered
  have howner : PairsOnly sampleTimeout [] samplePairing.1 (sampleCut kind).1 := .of_unasked (by decide) honly
  have hfetched : Fetched samplePairing.1 (sampleCut kind).1 receiver receiver :=
    .none ((Log.pairsUnasked_commands honly).trans (Log.pairsUnasked_commands hpairs).symm)
  split at hanswered
  · rename_i source progress hstep
    split at hanswered
    · rename_i error hresult
      obtain ⟨hkind, hblames, htells, hcleanup⟩ := of_decide_eq_true hanswered
      rw [hstep] at hexec
      rcases hdelivered : receiver.deliverProgress progress with ⟨outcome, receiver', more⟩
      have hbroken := Broken.failed hserving hexec howner hfetched hdelivered
      obtain ⟨howes, hunanswered, hprogress⟩ := hfetched.failed hserving.owes hserving.run hexec
      obtain ⟨-, -, hmore⟩ := howes.deliver hunanswered hprogress hdelivered
      rw [hresult] at hmore
      obtain ⟨response, rfl, hsame⟩ := List.map_eq_singleton_iff.1 hmore
      have hended := Prog.exec_run (failingPolls kind)
        (completeWorkerFailure (.core (.transport source)) (sampleCut kind).2.1) 0 (sampleCut kind).1
      have hend := LoopEnd.failed hbroken hended
      refine ⟨sampleCut.log kind (.core (.transport source)), error, source, _, .joined (.ended hend) ?_, hkind,
        hblames, htells, ?_, ?_, hcleanup, _, congrArg (WorkerCompletion.mk _) hbroken.settled.1⟩
      · exact hsame ▸ .result (by decide) rfl
      · refine hend.keyStore.2.trans ?_
        constructor
        · rintro ⟨told, ⟨⟩, htrue⟩
          rw [hsame, htells] at htrue
          exact of_decide_eq_true htrue
        · intro hkind
          refine ⟨response, rfl, ?_⟩
          rw [hsame, htells]
          exact decide_eq_true hkind
      · exact not_superseded (hbroken.unasked hended)
    · cases hanswered
  · cases hanswered

/-- The error of a sample creation whose transport is gone, whose cleanup
cannot disconnect and whose thread panics at its end lists all three. -/
theorem creation_lists_failures_once_sample : ∃ (h : Log .pro .direct) (attempt : Attempt)
    (source : TransportError) (cleanup : CleanupFailure), Attempted sampleTimeout h attempt ∧
      attempt.failures h = [.terminal (.core (.transport source)), .cleanup cleanup, .panicked] ∧
      attempt.ListedOnce h := by
  obtain ⟨h, error, source, completion, hattempted, hkind, hblames, htells, hkey, hsuperseded, hcleanup, cleanupError,
    rfl⟩ := @sampleCut_attempted .sourceTerminated (by decide +kernel)
  obtain ⟨cleanup, hcleanups⟩ := List.length_eq_one_iff.1 hcleanup
  refine ⟨h, _, source, cleanup, hattempted, ?_,
    (creation_lists_failures_once hattempted rfl).2 ⟨?_, rfl, hsuperseded, ?_⟩⟩
  · cases hattempted with
    | joined hcaught hheard =>
      have hcaused := hcaught.regular.caused rfl _ _ rfl
      have hfailures : PairAnswer.failures (.result (.error error)) = [] := if_pos hblames
      change PairAnswer.failures _ ++
        (_ ++ h.transportFailures ++ [] ++ h.cleanupFailures.map .cleanup ++ [.panicked]) = _
      rw [hfailures, hcaused, hcleanups]
      rfl
  · rw [hkey]
    decide
  · exact hcleanup.le

/-- A key-store error that ends the worker during pairing is listed as the
answer to the Pair command and again as the cause of the failure. -/
theorem key_store_error_listed_twice : ∃ (h : Log .pro .direct) (attempt : Attempt) (chain : ErrorChain)
    (rest : List ErrorKind), Attempted sampleTimeout h attempt ∧ attempt.paired = false ∧
      attempt.loopPanicked = false ∧ createControllerRuntime attempt = .error chain ∧
      chain.toList.map (fun error => error.error.kind) = .invalidKeyStore :: .invalidKeyStore :: rest ∧
      ¬ attempt.ListedOnce h := by
  obtain ⟨h, error, source, completion, hattempted, hkind, hblames, htells, hkey, hsuperseded, hcleanup, cleanupError,
    rfl⟩ := @sampleCut_attempted .invalidKeyStore (by decide +kernel)
  have hlost : PairAnswer.keyStoreLost (.result (.error error)) = true := htells
  obtain ⟨chain, hcreate, hchain⟩ := @createControllerRuntime_joined (.result (.error error))
    ⟨none, ⟨.failed (.core (.transport source)) cleanupError, none⟩, true⟩ rfl fun _ => by
      unfold ThreadEnd.outcome finishCompleted
      rw [listedErrors_failed]
      exact List.cons_ne_nil _ _
  refine ⟨h, _, chain, ((cleanupError.map mapCleanupError).toList ++ [mapJoinError .panicked]).map
    fun error => error.error.kind, hattempted, rfl, rfl, hcreate, ?_, ?_⟩
  · have hfailures : PairAnswer.failures (.result (.error error)) = [] := if_pos hblames
    unfold ThreadEnd.outcome finishCompleted at hchain
    rw [hchain, PairAnswer.listed_eq, hlost, hfailures, listedErrors_failed, mapWorkerFailure, mapWorkerCoreError,
      if_pos hkind]
    rfl
  · cases hattempted with
    | joined hcaught hheard =>
      rw [hcaught.listedOnce hheard rfl, hkey]
      exact fun honce => honce.1 rfl

end Swbt
