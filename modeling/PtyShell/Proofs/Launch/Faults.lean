import PtyShell.Proofs.Launch.Size

namespace PtyShell

namespace Launch

def CallFails (host : Host) (fault : Fault) : Prop :=
  host.faults.openPty = some fault ∨ host.faults.resize = some fault ∨
    host.faults.start = some fault ∨ host.faults.close = some fault ∨
      host.faults.closeSlave = some fault

section Exited

variable {host after : Host} {size : TerminalSize} {bytes : List UInt8} {code : Int}

theorem closeSlave_exited {fault : Fault}
    (same : (host.closeFault? .slave).getD fault = .exited code) :
    CallFails host (.exited code) ∨ fault = .exited code := by
  cases closed : host.closeFault? .slave with
  | none =>
      rw [closed] at same
      exact .inr same
  | some refusal =>
      rw [closed] at same
      exact .inl (.inr (.inr (.inr (.inr (same ▸ closed)))))

theorem openSized_exited (encoded : Terminal.encode size.rows size.cols = .ok bytes)
    (failed : (openSized size).run host = .error (.exited code) after) :
    CallFails host (.exited code) := by
  rw [openSized_run encoded] at failed
  cases possible : host.faults.openPty with
  | some fault =>
      simp only [possible] at failed
      have same := (EStateM.Result.error.inj failed).1
      unfold openFault at same
      split at same
      · cases same
      · exact .inl (same ▸ possible)
  | none =>
      cases resized : host.faults.resize with
      | none => simp [possible, resized] at failed
      | some fault =>
          cases closed : host.closeFault? .master with
          | none =>
              simp only [possible, resized, closed] at failed
              have same := (EStateM.Result.error.inj failed).1
              rcases closeSlave_exited same with refused | same
              · exact refused
              unfold sizeFault at same
              split at same
              · cases same
              · exact .inr (.inl (same ▸ resized))
          | some refusal =>
              simp only [possible, resized, closed] at failed
              have same := (EStateM.Result.error.inj failed).1
              exact .inr (.inr (.inr (.inl (same ▸ closed))))

theorem wrap_ne_exited (argv : List String) (fault : Fault) :
    Fault.wrap (fun reason => .processStart argv reason true) fault ≠ .exited code := by
  unfold Fault.wrap
  cases objected : fault.objection? with
  | none => exact fun same => by cases same
  | some objection =>
      obtain ⟨_, ⟨complaint, rfl⟩ | rfl⟩ := Fault.objection_kind objected
      · exact fun same => by cases same
      · exact fun same => by cases same

theorem startOn_exited {argv : List String} {cwd : Option String} {env : Env}
    (failed : (startOn argv cwd env).run host = .error (.exited code) after) :
    CallFails host (.exited code) := by
  rw [startOn_run] at failed
  cases refused : startFault? host with
  | none =>
      simp only [refused] at failed
      cases closed : host.closeFault? .slave with
      | none => simp [closed] at failed
      | some refusal =>
          simp only [closed] at failed
          have same := (EStateM.Result.error.inj failed).1
          exact .inr (.inr (.inr (.inr (same ▸ closed))))
  | some fault =>
      simp only [refused] at failed
      split at failed
      · rcases closeSlave_exited (EStateM.Result.error.inj failed).1 with unclosed | same
        · exact unclosed
        cases closed : host.closeFault? .master with
        | none =>
            rw [closed] at same
            exact absurd same (wrap_ne_exited argv fault)
        | some refusal =>
            rw [closed] at same
            exact .inr (.inr (.inr (.inl (same ▸ closed))))
      · rcases closeSlave_exited (EStateM.Result.error.inj failed).1 with unclosed | same
        · exact unclosed
        subst same
        -- A child that could not be set up is reported by a fault of its own.
        unfold startFault? at refused
        rw [Option.orElse_eq_orElse, Option.orElse_eq_or, Option.or_eq_some_iff] at refused
        rcases refused with started | ⟨_, claims⟩
        · exact .inr (.inr (.inl started))
        · split at claims
          · obtain ⟨_, _, other⟩ := Option.map_eq_some_iff.mp claims
            cases other
          · cases claims

theorem spawn_exited {argv : List String} {cwd : Option String} {env : Env}
    (encoded : Terminal.encode size.rows size.cols = .ok bytes)
    (failed : (spawn argv cwd env size).run host = .error (.exited code) after) :
    CallFails host (.exited code) := by
  rcases Sys.bind_error failed with unopened | ⟨_, between, opened, unstarted⟩
  · exact openSized_exited encoded unopened
  · obtain ⟨_, _, rfl⟩ := openSized_ok encoded opened
    have fails : CallFails (host.sized bytes) (.exited code) := startOn_exited unstarted
    exact fails

/-- The launch of a command fails with the status of a process only if one of its calls does. -/
theorem command_exited {prepared : Command} {base : Option Env} {config : Config}
    (failed : (command prepared size base config).run host = .error (.exited code) after) :
    CallFails host (.exited code) := by
  rcases Sys.bind_error failed with refused | ⟨resolved, between, found, rest⟩
  · -- A size is refused by a fault of its own.
    rw [TerminalSize.resolve_eq_settle] at refused
    by_cases positive : (size.effective config.defaultSize).Positive
    · rw [TerminalSize.settle_positive positive] at refused
      cases refused
    · rw [TerminalSize.settle_refuses positive] at refused
      exact absurd (EStateM.Result.error.inj refused).1 (TerminalSize.refusal_ne_exited _ code)
  · obtain ⟨resolves, rfl⟩ := Sys.ofExcept_ok found
    obtain ⟨bytes, encoded⟩ := TerminalSize.resolve_encodes resolves
    rcases Sys.bind_error rest with unread | ⟨_, _, read, unspawned⟩
    · cases unread
    · cases read
      exact spawn_exited encoded unspawned

end Exited

end Launch

end PtyShell
