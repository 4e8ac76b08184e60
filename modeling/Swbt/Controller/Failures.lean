import Swbt.Controller.Create
/-!
# What the error of a creation lists

An error that is an answer of its own comes before the failures of the thread;
one that tells of the end of the worker gives way to them. The answer to a
Pair command that a key-store error has ended does not, and a panic of the
loop is there as cause and as the error of the join. Of a cleanup there is the
first phase that failed.
-/

set_option autoImplicit false

open Effects

namespace Swbt

variable {m : ControllerKind} {r : ReportingKind}

/-! ## Lists -/

/-- What an answer puts before the failures of the thread. -/
def PairAnswer.listed : PairAnswer → List PublicError
  | refused => [connectionTimeoutError]
  | disconnected | lost | result (.ok ()) => []
  | result (.error (.connection ⟨_, .workerFailed⟩)) => []
  | result (.error error) => [mapCommandError error]

/-- The result tells of a key-store error that has ended the worker. -/
def tellsKeyStoreLost : CommandResult → Bool
  | .error (.connection ⟨_, .invalidKeyStore⟩) => true
  | _ => false

def PairAnswer.keyStoreLost : PairAnswer → Bool
  | refused | disconnected | lost => false
  | result answer => tellsKeyStoreLost answer

def keyStoreError : PublicError :=
  .new .invalidKeyStore "controller pairing key store could not be read or updated"

theorem PairAnswer.listed_eq (answer : PairAnswer) :
    answer.listed = answer.failures.map Failure.report ++ if answer.keyStoreLost then [keyStoreError] else [] := by
  rcases answer with _ | _ | _ | (error | ⟨⟩)
  · rfl
  · rfl
  · rfl
  · cases error with
    | connection error =>
      obtain ⟨command, failure⟩ := error
      cases failure <;> rfl
    | _ => rfl
  · rfl

variable {answer : PairAnswer} {ending : ThreadEnd}

/-- The error of a creation whose worker was started. -/
theorem createControllerRuntime_joined (hunpaired : Attempt.paired (.joined answer ending) = false)
    (hblamed : answer.listed = [] → listedErrors (mapWorkerOutcome ending.outcome) ≠ []) :
    ∃ chain, createControllerRuntime (.joined answer ending) = .error chain ∧
      chain.toList = answer.listed ++ listedErrors (mapWorkerOutcome ending.outcome) := by
  -- The answer is the first error, and the thread adds its own.
  have hown : ∀ primary : PublicError, pairToReady answer ending.outcome = (.error (.single primary), true) →
      answer.listed = [primary] → ∃ chain, createControllerRuntime (.joined answer ending) = .error chain ∧
        chain.toList = answer.listed ++ listedErrors (mapWorkerOutcome ending.outcome) := by
    intro primary hpair hlisted
    rw [createControllerRuntime, hpair, hlisted]
    refine ⟨_, rfl, ?_⟩
    unfold cleanupWithoutNeutral
    rw [if_pos rfl]
    cases hmapped : mapWorkerOutcome ending.outcome with
    | ok done => rfl
    | error cleanup => rfl
  -- The answer leaves the error to the thread.
  have hterminal : ∀ fallback : PublicError,
      pairToReady answer ending.outcome = (.error (finishTerminalOwner ending.outcome fallback), false) →
      answer.listed = [] → ∃ chain, createControllerRuntime (.joined answer ending) = .error chain ∧
        chain.toList = answer.listed ++ listedErrors (mapWorkerOutcome ending.outcome) := by
    intro fallback hpair hlisted
    rw [createControllerRuntime, hpair, hlisted]
    refine ⟨_, rfl, ?_⟩
    have hfound := hblamed hlisted
    unfold finishTerminalOwner
    cases hmapped : mapWorkerOutcome ending.outcome with
    | ok done =>
      rw [hmapped] at hfound
      exact absurd rfl hfound
    | error error => rfl
  rcases answer with _ | _ | _ | (error | ⟨⟩)
  · exact hown _ rfl rfl
  · exact hterminal _ rfl rfl
  · exact hterminal _ rfl rfl
  · cases error with
    | connection error =>
      obtain ⟨command, failure⟩ := error
      cases failure with
      | workerFailed => exact hterminal _ rfl rfl
      | begin error => exact hown _ rfl rfl
      | readiness error => exact hown _ rfl rfl
      | invalidKeyStore => exact hown _ rfl rfl
    | _ => exact hown _ rfl rfl
  · cases hunpaired

/-! ## Cleanups -/

theorem recordFirstFailure_head (failures : List CleanupFailure) (phase : CleanupPhase)
    (result : TransportResult Unit) :
    CleanupSequence.recordFirstFailure failures.head? phase result =
      (failures ++ (phaseFailure (phase, result)).toList).head? := by
  cases failures with
  | cons failure rest => rfl
  | nil =>
    cases result with
    | ok done => rfl
    | error error => rfl

/-- An unowned cleanup keeps the first of its failures. -/
theorem UnownedCleanup.firstFailure_eq (cleanup : UnownedCleanup) : cleanup.firstFailure = cleanup.failures.head? := by
  obtain ⟨drain, disconnect, close⟩ := cleanup
  cases drain <;> cases disconnect <;> cases close <;> rfl

theorem head_toList {α β : Type} (f : α → β) (list : List α) :
    (list.head?.map f).toList = (list.map f).head?.toList := by
  cases list with
  | nil => rfl
  | cons a rest => rfl

/-- The first element stands for a list alone if there is no other. -/
theorem head_stands {α : Type} {front list : List α} :
    list.head?.toList = front ++ list ↔ front = [] ∧ list.length ≤ 1 := by
  constructor
  · intro heq
    have hlength := congrArg List.length heq
    rw [List.length_append] at hlength
    cases list with
    | nil => exact ⟨List.length_eq_zero_iff.1 hlength.symm, Nat.zero_le 1⟩
    | cons a rest =>
      simp only [List.head?_cons, Option.toList_some, List.length_cons, List.length_nil] at hlength ⊢
      exact ⟨List.length_eq_zero_iff.1 (by omega), by omega⟩
  · rintro ⟨rfl, hlength⟩
    rcases list with _ | ⟨a, _ | ⟨b, rest⟩⟩
    · rfl
    · rfl
    · exact absurd hlength (by simp)

/-! ## Reports -/

/-- The causes of a worker that has failed without a panic tell of themselves. -/
theorem mapWorkerFailure_ne {cause : WorkerFailureCause} (hcause : cause ≠ .panicked) :
    mapWorkerFailure cause ≠ mapWorkerFailure .panicked ∧ mapWorkerFailure cause ≠ keyStoreError := by
  have hsource : ∀ error : PublicError, error.source.isSome = true →
      error ≠ mapWorkerFailure .panicked ∧ error ≠ keyStoreError := by
    intro error hsome
    constructor
    · rintro rfl
      cases hsome
    · rintro rfl
      cases hsome
  have hfailed : ∀ message : String, message ≠ "controller worker thread panicked" →
      PublicError.new .workerFailed message ≠ mapWorkerFailure .panicked ∧
        PublicError.new .workerFailed message ≠ keyStoreError := by
    intro message hmessage
    constructor
    · intro heq
      exact hmessage (congrArg (fun error => error.error.message) heq)
    · intro heq
      have hkind : ErrorKind.workerFailed = ErrorKind.invalidKeyStore := congrArg (fun error => error.error.kind) heq
      cases hkind
  cases cause with
  | core error =>
    cases error with
    | invalidLifecycle => exact hfailed _ (by decide)
    | handshake source => exact hsource _ rfl
    | transport source =>
      refine hsource _ ?_
      unfold mapWorkerFailure mapWorkerCoreError
      dsimp only
      split
      · rfl
      · rfl
  | wait error => exact hfailed _ (by decide)
  | commandDelivery error =>
    cases error
    exact hfailed _ (by decide)
  | panicked => exact absurd rfl hcause
  | completionDisconnected => exact hfailed _ (by decide)

/-- A failure of the worker itself. -/
def Failure.isWorker : Failure → Bool
  | .terminal _ | .delivery _ | .cleanup _ | .panicked => true
  | .opening _ | .timeout | .pairing _ => false

/-- No failure of the worker is told of as the answer to a lost key store is. -/
theorem Failure.report_ne_keyStore {failure : Failure} (hworker : failure.isWorker = true) :
    failure.report ≠ keyStoreError := by
  have hkind : ∀ message : String, PublicError.new .workerFailed message ≠ keyStoreError := by
    intro message heq
    have hkind : ErrorKind.workerFailed = ErrorKind.invalidKeyStore := congrArg (fun error => error.error.kind) heq
    cases hkind
  cases failure with
  | terminal cause =>
    by_cases hcause : cause = .panicked
    · rw [hcause]
      exact hkind _
    · exact (mapWorkerFailure_ne hcause).2
  | delivery error =>
    cases error
    exact hkind _
  | cleanup failure =>
    rintro heq
    have hsource := congrArg (fun error => error.source.isSome) heq
    cases hsource
  | panicked => exact hkind _
  | opening error => cases hworker
  | timeout => cases hworker
  | pairing error => cases hworker

theorem mapCleanupError_ne (failure : CleanupFailure) : mapCleanupError failure ≠ mapWorkerFailure .panicked := by
  intro heq
  have hsource := congrArg (fun error => error.source.isSome) heq
  cases hsource

theorem WorkerFailureCause.unseen_spec {cause : WorkerFailureCause} {failure : Failure} (hmem : failure ∈ cause.unseen) :
    failure = .terminal cause ∧ cause ≠ .panicked := by
  unfold unseen at hmem
  split at hmem
  · cases hmem
  · cases hmem
  · rename_i hpanicked
    exact ⟨List.mem_singleton.1 hmem, hpanicked⟩

variable {h : Log m r}

theorem Log.transportFailures_spec {failure : Failure} (hmem : failure ∈ h.transportFailures) :
    ∃ source, failure = .terminal (.core (.transport source)) := by
  obtain ⟨e, -, hfailure⟩ := List.mem_filterMap.1 hmem
  unfold transportFailure at hfailure
  split at hfailure
  · cases hfailure
  · obtain ⟨source, -, rfl⟩ := Option.map_eq_some_iff.1 hfailure
    exact ⟨source, rfl⟩

theorem ThreadEnd.failures_worker : ∀ failure ∈ ending.failures h, failure.isWorker = true := by
  have hunseen : ∀ cause : WorkerFailureCause, ∀ failure ∈ cause.unseen, failure.isWorker = true := by
    intro cause failure hmem
    rw [(WorkerFailureCause.unseen_spec hmem).1]
    rfl
  have htransport : ∀ failure ∈ h.transportFailures, failure.isWorker = true := by
    intro failure hmem
    obtain ⟨source, rfl⟩ := Log.transportFailures_spec hmem
    rfl
  have hcleanup : ∀ failure ∈ h.cleanupFailures.map Failure.cleanup, failure.isWorker = true := by
    intro failure hmem
    obtain ⟨cleanup, -, rfl⟩ := List.mem_map.1 hmem
    rfl
  have hdelivery : ∀ failure ∈ (ending.completion.deliveryError.map Failure.delivery).toList,
      failure.isWorker = true := by
    intro failure hmem
    obtain ⟨error, -, rfl⟩ := Option.map_eq_some_iff.1 (Option.mem_toList.1 hmem)
    rfl
  have hteardown : ∀ failure ∈ (if ending.teardown then [Failure.panicked] else []), failure.isWorker = true := by
    intro failure hmem
    split at hmem
    · rw [List.mem_singleton.1 hmem]
      rfl
    · cases hmem
  obtain ⟨caught, ⟨terminal, delivery⟩, teardown⟩ := ending
  unfold failures
  cases caught with
  | some broken =>
    refine List.forall_mem_append.2 ⟨List.forall_mem_append.2 ⟨?_, htransport⟩, List.forall_mem_cons.2 ⟨rfl, hcleanup⟩⟩
    cases broken with
    | none => exact List.forall_mem_nil _
    | some broken => exact hunseen broken.1
  | none =>
    cases terminal with
    | failed cause cleanupError =>
      refine List.forall_mem_append.2 ⟨List.forall_mem_append.2 ⟨List.forall_mem_append.2 ⟨?_, hdelivery⟩, hcleanup⟩,
        hteardown⟩
      exact List.forall_mem_append.2 ⟨hunseen cause, htransport⟩
    | closed close =>
      refine List.forall_mem_append.2 ⟨List.forall_mem_append.2 ⟨?_, hdelivery⟩, hteardown⟩
      exact List.forall_mem_append.2 ⟨htransport, hcleanup⟩

/-! ## Ends of threads -/

def WorkerCompletion.cleanupError (completion : WorkerCompletion) : Option CleanupFailure :=
  match completion.terminal with
  | .closed close => close.firstFailure
  | .failed _ cleanupError => cleanupError

/-- What is known of the end of a thread that leaves the log `h`, whatever run it is the end of. -/
structure ThreadEnd.Regular (ending : ThreadEnd) (h : Log m r) : Prop where
  performed : ∀ close, ending.completion.terminal = .closed close → close.performed = true
  delivered : ending.completion.deliveryError = none
  panicked : ending.caught ≠ none → ∃ cleanup, ending.completion = ⟨.failed .panicked cleanup, none⟩
  caused : ending.caught = none → ∀ cause cleanupError, ending.completion.terminal = .failed cause cleanupError →
    cause.unseen ++ h.transportFailures = [.terminal cause]
  cleaned : ending.caught = none → ending.completion.cleanupError = h.cleanupFailures.head?

theorem cleanup_reports (failures : List CleanupFailure) :
    (failures.map Failure.cleanup).map Failure.report = failures.map mapCleanupError := by
  rw [List.map_map]
  rfl

/-- The error that a panic of the teardown adds. -/
def ThreadEnd.teardownErrors (ending : ThreadEnd) : List PublicError :=
  if ending.teardown then [mapWorkerFailure .panicked] else []

/-- What a failed thread lists, without a panic of its loop. -/
theorem ThreadEnd.Regular.listed_failed (hregular : ending.Regular h) (hended : ending.caught = none)
    {cause : WorkerFailureCause} {cleanupError : Option CleanupFailure}
    (hfailed : ending.completion.terminal = .failed cause cleanupError) :
    listedErrors (mapWorkerOutcome ending.outcome) = mapWorkerFailure cause ::
        ((h.cleanupFailures.map mapCleanupError).head?.toList ++ ending.teardownErrors) ∧
      (ending.failures h).map Failure.report = mapWorkerFailure cause ::
        (h.cleanupFailures.map mapCleanupError ++ ending.teardownErrors) := by
  have hcleaned := hregular.cleaned hended
  have hcaused := hregular.caused hended _ _ hfailed
  have hdelivered := hregular.delivered
  obtain ⟨caught, ⟨terminal, delivery⟩, teardown⟩ := ending
  cases hended
  cases hfailed
  cases hdelivered
  refine ⟨?_, ?_⟩
  · unfold outcome finishCompleted
    rw [listedErrors_failed, ← head_toList, ← show cleanupError = _ from hcleaned]
    cases teardown <;> rfl
  · unfold failures
    dsimp only
    rw [hcaused]
    simp only [List.map_append, cleanup_reports]
    cases teardown <;> simp [teardownErrors, Failure.report]

/-- What a thread lists whose worker was closed. -/
theorem ThreadEnd.Regular.listed_closed (hregular : ending.Regular h) (hended : ending.caught = none)
    {close : CloseCompletion} (hclosed : ending.completion.terminal = .closed close) :
    listedErrors (mapWorkerOutcome ending.outcome) =
        (h.cleanupFailures.map mapCleanupError).head?.toList ++ ending.teardownErrors ∧
      (ending.failures h).map Failure.report = h.transportFailures.map Failure.report ++
        (h.cleanupFailures.map mapCleanupError ++ ending.teardownErrors) := by
  have hcleaned := hregular.cleaned hended
  have hperformed := hregular.performed _ hclosed
  have hdelivered := hregular.delivered
  obtain ⟨caught, ⟨terminal, delivery⟩, teardown⟩ := ending
  obtain ⟨performed, firstFailure⟩ := close
  cases hended
  cases hclosed
  cases hdelivered
  cases hperformed
  refine ⟨?_, ?_⟩
  · rw [← head_toList, ← show firstFailure = _ from hcleaned]
    cases firstFailure <;> cases teardown <;> rfl
  · unfold failures
    simp only [List.map_append, cleanup_reports]
    cases teardown <;> simp [teardownErrors, Failure.report]

/-- A panic of the loop is listed first and last. -/
theorem listedErrors_panicked {cleanup : Option CleanupFailure}
    (hcaught : ending.caught ≠ none) (hcompletion : ending.completion = ⟨.failed .panicked cleanup, none⟩) :
    listedErrors (mapWorkerOutcome ending.outcome) =
      mapWorkerFailure .panicked :: (cleanup.map mapCleanupError).toList ++ [mapWorkerFailure .panicked] := by
  obtain ⟨caught, completion, teardown⟩ := ending
  cases hcompletion
  obtain ⟨broken, rfl⟩ := Option.ne_none_iff_exists'.1 hcaught
  unfold ThreadEnd.outcome finishCompleted
  rw [listedErrors_failed]
  rfl

/-- The only report of a panic in the failures of a thread whose loop has panicked is that of the panic. -/
theorem ThreadEnd.failures_panicked (hcaught : ending.caught ≠ none) :
    ∃ before after, (ending.failures h).map Failure.report = before ++ mapWorkerFailure .panicked :: after ∧
      mapWorkerFailure .panicked ∉ before ∧ mapWorkerFailure .panicked ∉ after := by
  obtain ⟨broken, hbroken⟩ := Option.ne_none_iff_exists'.1 hcaught
  have hunseen : ∀ cause : WorkerFailureCause, mapWorkerFailure .panicked ∉ cause.unseen.map Failure.report := by
    intro cause hmem
    obtain ⟨failure, hmem, hreport⟩ := List.mem_map.1 hmem
    obtain ⟨rfl, hcause⟩ := WorkerFailureCause.unseen_spec hmem
    exact (mapWorkerFailure_ne hcause).1 hreport
  have htransport : mapWorkerFailure .panicked ∉ h.transportFailures.map Failure.report := by
    intro hmem
    obtain ⟨failure, hmem, hreport⟩ := List.mem_map.1 hmem
    obtain ⟨source, rfl⟩ := Log.transportFailures_spec hmem
    have hcause : WorkerFailureCause.core (.transport source) ≠ .panicked := WorkerFailureCause.noConfusion
    exact (mapWorkerFailure_ne hcause).1 hreport
  have hcleanup : mapWorkerFailure .panicked ∉ h.cleanupFailures.map mapCleanupError := by
    intro hmem
    obtain ⟨failure, -, hreport⟩ := List.mem_map.1 hmem
    exact mapCleanupError_ne failure hreport
  refine ⟨(broken.elim [] fun broken => broken.1.unseen).map Failure.report ++ h.transportFailures.map Failure.report,
    h.cleanupFailures.map mapCleanupError, ?_, ?_, hcleanup⟩
  · unfold failures
    rw [hbroken]
    simp only [List.map_append, List.map_cons, cleanup_reports]
    rfl
  · rw [List.mem_append, not_or]
    refine ⟨?_, htransport⟩
    cases broken with
    | none => exact List.not_mem_nil
    | some broken => exact hunseen broken.1

/-- A panic of the loop is never listed once. -/
theorem ThreadEnd.Regular.misreported (hregular : ending.Regular h) (hcaught : ending.caught ≠ none)
    (first : List PublicError) :
    first ++ listedErrors (mapWorkerOutcome ending.outcome) ≠ (ending.failures h).map Failure.report := by
  obtain ⟨cleanup, hcompletion⟩ := hregular.panicked hcaught
  obtain ⟨before, after, hfailures, hbefore, hafter⟩ := ending.failures_panicked (h := h) hcaught
  rw [listedErrors_panicked hcaught hcompletion, hfailures, ← List.append_assoc]
  intro heq
  -- The last report is that of the panic, so nothing comes after the panic, and nothing before it tells of it.
  rcases List.eq_nil_or_concat after with rfl | ⟨rest, last, rfl⟩
  · have hsame := List.append_inj_left' heq rfl
    exact hbefore (hsame ▸ List.mem_append_right _ List.mem_cons_self)
  · rw [List.concat_eq_append, ← List.cons_append, ← List.append_assoc] at heq
    have hlast := List.append_inj_right' heq rfl
    rw [List.concat_eq_append, ← hlast] at hafter
    exact hafter (List.mem_append_right _ List.mem_cons_self)

theorem ThreadEnd.Regular.blamed (hregular : ending.Regular h) (hcaught : ending.caught ≠ none) :
    listedErrors (mapWorkerOutcome ending.outcome) ≠ [] := by
  obtain ⟨cleanup, hcompletion⟩ := hregular.panicked hcaught
  rw [listedErrors_panicked hcaught hcompletion]
  exact List.cons_ne_nil _ _

/-- A thread without a panic of its loop lists all that has failed, if a close has lost no transport failure and no
more than one phase of the cleanup has failed. -/
theorem ThreadEnd.Regular.listed_iff (hregular : ending.Regular h) (hended : ending.caught = none) :
    listedErrors (mapWorkerOutcome ending.outcome) = (ending.failures h).map Failure.report ↔
      (∀ close, ending.completion.terminal = .closed close → h.transportFailures = []) ∧
        h.cleanupFailures.length ≤ 1 := by
  cases hterminal : ending.completion.terminal with
  | failed cause cleanupError =>
    obtain ⟨hlisted, hfailures⟩ := hregular.listed_failed hended hterminal
    rw [hlisted, hfailures, List.cons_inj_right, List.append_left_inj]
    have hstands := @head_stands _ [] (h.cleanupFailures.map mapCleanupError)
    rw [List.nil_append, List.length_map] at hstands
    rw [hstands]
    exact ⟨fun hone => ⟨fun close hclosed => (nomatch hclosed), hone.2⟩, fun hone => ⟨rfl, hone.2⟩⟩
  | closed close =>
    obtain ⟨hlisted, hfailures⟩ := hregular.listed_closed hended hterminal
    rw [hlisted, hfailures, ← List.append_assoc, List.append_left_inj, head_stands, List.map_eq_nil_iff,
      List.length_map]
    exact ⟨fun hone => ⟨fun _ _ => hone.1, hone.2⟩, fun hone => ⟨hone.1 _ rfl, hone.2⟩⟩

/-! ## Lists of a creation -/

/-- The error lists each failure once but for the two answers of a key-store error, the two reports of a panic, a
transport failure that a close has superseded and the phases after the first that failed. -/
theorem listedOnce_joined (hregular : ending.Regular h) (hunpaired : Attempt.paired (.joined answer ending) = false)
    (hblamed : answer.listed = [] → listedErrors (mapWorkerOutcome ending.outcome) ≠ []) :
    Attempt.ListedOnce (.joined answer ending) h ↔ answer.keyStoreLost = false ∧ ending.caught = none ∧
      (∀ close, ending.completion.terminal = .closed close → h.transportFailures = []) ∧
        h.cleanupFailures.length ≤ 1 := by
  obtain ⟨chain, hcreate, hlisted⟩ := createControllerRuntime_joined hunpaired hblamed
  have hiff : Attempt.ListedOnce (.joined answer ending) h ↔
      (if answer.keyStoreLost then [keyStoreError] else []) ++ listedErrors (mapWorkerOutcome ending.outcome) =
        (ending.failures h).map Failure.report := by
    rw [answer.listed_eq, List.append_assoc] at hlisted
    have hcancel := @List.append_cancel_left _ (answer.failures.map Failure.report)
    constructor
    · rintro ⟨chain', hcreate', hlisted'⟩
      cases hcreate.symm.trans hcreate'
      refine hcancel (hlisted.symm.trans (hlisted'.trans ?_))
      exact List.map_append
    · intro heq
      refine ⟨chain, hcreate, ?_⟩
      rw [hlisted, heq]
      exact List.map_append.symm
  rw [hiff]
  by_cases hended : ending.caught = none
  · cases answer.keyStoreLost with
    | false =>
      rw [if_neg Bool.false_ne_true, List.nil_append, hregular.listed_iff hended]
      exact ⟨fun hlists => ⟨rfl, hended, hlists⟩, fun hlists => hlists.2.2⟩
    | true =>
      refine ⟨fun heq => ?_, fun hfalse => nomatch hfalse.1⟩
      -- The failures of the thread do not tell of it as the answer does.
      have hmem : keyStoreError ∈ (ending.failures h).map Failure.report := heq ▸ List.mem_cons_self
      obtain ⟨failure, hmem, hreport⟩ := List.mem_map.1 hmem
      exact absurd hreport (Failure.report_ne_keyStore (ThreadEnd.failures_worker _ hmem))
  · exact ⟨fun heq => absurd heq (hregular.misreported hended _), fun hlists => absurd hlists.2.1 hended⟩

end Swbt
