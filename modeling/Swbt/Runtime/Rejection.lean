import Swbt.Runtime.Run
/-!
# Connection commands a worker refuses

Pair and Reconnect start the transport before they begin a session. A worker
that is not open refuses to begin one, and by then the transport is started.
-/

set_option autoImplicit false

open Effects

namespace Swbt

variable {m : ControllerKind} {r : ReportingKind} {h h' : Log m r} {s s' : Frame m r}

/-- A worker that is not open refuses a connection command this way. -/
theorem exec_refused (hclosed : s.lifecycle.current ≠ .open) (kind : ConnectionCommandKind) (timeout t : Duration) :
    Prog.Exec (runCommand (connectCommand kind timeout) s) h (.call s Op.now t :: startEvent kind s (.ok ()) :: h) s
      (.complete (.error (.connection ⟨kind, .begin .invalidLifecycle⟩))) := by
  have hbegin : s.lifecycle.beginConnection = none := by
    unfold LifecycleStateMachine.beginConnection
    rw [if_pos hclosed]
  have hbegun : beginConnection t timeout s = .done s (.error .invalidLifecycle) := by
    unfold beginConnection
    change Prog.bind (Prog.done s s) _ = _
    rw [Prog.bind]
    dsimp only
    rw [hbegin]
    rfl
  cases kind with
  | pair =>
    refine .call (.ok ()) (.call t ?_)
    change Prog.Exec ((beginConnection t timeout s).bind _) _ _ _ _
    rw [hbegun]
    exact .done
  | reconnect =>
    refine .call (.ok ()) (.call t ?_)
    change Prog.Exec ((beginConnection t timeout s).bind _) _ _ _ _
    rw [hbegun]
    exact .done

/-- A connection command refused because the worker is not open changes nothing
in it and publishes nothing; the transport gets the one call that starts a
connection. -/
theorem refused_connection {kind : ConnectionCommandKind} {timeout : Duration}
    (hexec : Prog.Exec (runCommand (connectCommand kind timeout) s) h h' s'
      (.complete (.error (.connection ⟨kind, .begin .invalidLifecycle⟩)))) :
    s' = s ∧ s.lifecycle.state ≠ .open ∧ ∃ t, h' = .call s Op.now t :: startEvent kind s (.ok ()) :: h := by
  have heffect := hexec.post (runCommand_spec _ _ _)
  generalize hcommand : connectCommand kind timeout = command at heffect
  generalize hprogress : WorkerCommandProgress.complete _ = progress at heffect
  cases heffect with
  | unstarted => cases hprogress
  | begun hopen => cases hprogress
  | ended hended => cases hprogress
  | refused hclosed =>
    cases hprogress
    exact ⟨rfl, fun hopen => hclosed (LifecycleStateMachine.current_of_state_open hopen), _, rfl⟩
  | input heffect =>
    cases kind with
    | pair => cases hcommand
    | reconnect => cases hcommand

theorem sampleReady_closed : sampleReady.2.lifecycle.current ≠ .open := by decide +kernel

/-- A Ready worker that refuses to pair stays as it was. -/
theorem refused_connection_ready : ∃ h' s', Prog.Exec (runCommand (.pair sampleTimeout) sampleReady.2) sampleReady.1 h' s'
    (.complete (.error (.connection ⟨.pair, .begin .invalidLifecycle⟩))) ∧ s' = sampleReady.2 :=
  have hexec := exec_refused (h := sampleReady.1) sampleReady_closed .pair sampleTimeout .ZERO
  ⟨_, _, hexec, (@refused_connection _ _ _ _ _ _ .pair _ hexec).1⟩

/-- In a Ready session the refused Pair command starts pairing on the transport. -/
theorem refused_connection_starts : Run sampleReady.1 sampleReady.2 ∧ sampleReady.2.lifecycle.state = .ready ∧
    ∃ h' s', Prog.Exec (runCommand (.pair sampleTimeout) sampleReady.2) sampleReady.1 h' s'
        (.complete (.error (.connection ⟨.pair, .begin .invalidLifecycle⟩))) ∧
      ∃ h₁ : Log .pro .direct, h' = h₁ ++ sampleReady.1 ∧ .call sampleReady.2 Op.startPairing (.ok ()) ∈ h₁ :=
  ⟨sampleReady_run, by decide +kernel, _, _, exec_refused sampleReady_closed .pair sampleTimeout .ZERO,
    [.call sampleReady.2 Op.now .ZERO, .call sampleReady.2 Op.startPairing (.ok ())], rfl, .tail _ (.head _)⟩

end Swbt
