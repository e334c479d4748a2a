import PtyShell.Proofs.Launch.Preparation

/-! # Descriptors of a failed launch

A launch that fails closes both ends of the terminal it opened, but for three cases. Where the size
cannot be set and closing the master end fails, the slave end stays open. The master end does where
the process does not start for a reason that is neither a failing system call nor a fault of the
child, and where it starts but closing the slave end fails. -/

namespace PtyShell

def Host.openings (host : Host) : Nat :=
  host.trace.countP (· == .openPty)

namespace Host

@[simp] theorem openings_record (event : Event) (host : Host) :
    (host.record event).openings = host.openings + (event == .openPty).toNat := by
  cases seen : event == Event.openPty <;> simp [openings, seen]

@[simp] theorem openings_closed (fd : Fd) (host : Host) :
    (host.closed fd).openings = host.openings :=
  openings_record (.close fd host.unread) host

@[simp] theorem openings_sized (bytes : List UInt8) (host : Host) :
    (host.sized bytes).openings = host.openings + 1 := by
  unfold sized
  rw [openings_record]
  exact openings_record .openPty host

@[simp] theorem openings_asked (request : StartRequest) (host : Host) :
    (host.asked request).openings = host.openings := by
  unfold openings asked
  rw [List.countP_append, List.countP_cons_of_neg (by simp)]
  split <;> rfl

@[simp] theorem closes_sized (fd : Fd) (bytes : List UInt8) (host : Host) :
    (host.sized bytes).closes fd = host.closes fd := by
  unfold sized
  rw [closes_record]
  exact closes_record fd .openPty host

@[simp] theorem closes_asked (fd : Fd) (request : StartRequest) (host : Host) :
    (host.asked request).closes fd = host.closes fd := by
  unfold closes asked
  rw [List.countP_append, List.countP_cons_of_neg (by simp [Event.isClose])]
  split <;> rfl

namespace Logged

variable {before after : Host}

theorem faults (logged : before.Logged after) : after.faults = before.faults := by
  rw [logged.same]

theorem openings (logged : before.Logged after) : after.openings = before.openings := by
  apply logged.count
  intro event log
  cases event <;> cases log
  rfl

theorem closes (logged : before.Logged after) (fd : Fd) : after.closes fd = before.closes fd := by
  apply logged.count
  intro event log
  cases event <;> cases log
  rfl

end Logged

end Host

namespace Launch

def leaves : Fd → Host → Bool
  | .master, host =>
    host.faults.resize.isNone &&
      (startFault? host).all fun fault => !(fault.isSystem || fault.isChildProcess)
  | .slave, host => host.faults.resize.isSome && host.faults.close.isSome

/-- What a launch that fails does to descriptors. -/
structure Failed (host after : Host) : Prop where
  /-- A terminal that was not to be opened, or could not be, leaves nothing to close. -/
  unopened : after.openings = host.openings ∨ host.faults.openPty ≠ none →
    ∀ fd, after.closes fd = host.closes fd
  opened_once : after.openings ≤ host.openings + 1
  opened : after.openings ≠ host.openings → host.faults.openPty = none →
    ∀ fd, after.closes fd = host.closes fd + (!leaves fd host).toNat ∧
      (fd ∈ after.openFds ↔ leaves fd host = true)

namespace Failed

theorem afterLogs {host between after : Host} (logged : host.Logged between)
    (failed : Failed between after) : Failed host after where
  unopened := by
    rw [← logged.openings, ← logged.faults]
    intro unopened fd
    rw [failed.unopened unopened fd, logged.closes]
  opened_once := by
    rw [← logged.openings]
    exact failed.opened_once
  opened := by
    rw [← logged.openings, ← logged.faults]
    intro reached possible fd
    have same : leaves fd between = leaves fd host := by
      rw [logged.same]
      cases fd <;> rfl
    rw [← logged.closes, ← same]
    exact failed.opened reached possible fd

theorem ofLogged {host after : Host} (logged : host.Logged after) : Failed host after :=
  afterLogs logged ⟨fun _ _ => rfl, Nat.le_succ _, fun reached => absurd rfl reached⟩

theorem ofRefusal {host : Host} (refused : host.faults.openPty ≠ none) :
    Failed host (host.record .openPty) where
  unopened := fun _ fd => Host.closes_record fd .openPty host
  opened_once := Nat.le_of_eq (host.openings_record .openPty)
  opened := fun _ possible => absurd possible refused

theorem ofOpened {host after : Host} (possible : host.faults.openPty = none)
    (openings : after.openings = host.openings + 1)
    (ends : ∀ fd, after.closes fd = host.closes fd + (!leaves fd host).toNat ∧
      (fd ∈ after.openFds ↔ leaves fd host = true)) : Failed host after where
  unopened := by
    intro unopened
    rcases unopened with unreached | refused
    · omega
    · exact absurd possible refused
  opened_once := Nat.le_of_eq openings
  opened := fun _ _ => ends

end Failed

theorem openSized_failed {size : TerminalSize} {bytes : List UInt8}
    (encoded : Terminal.encode size.rows size.cols = .ok bytes) {host after : Host} {fault : Fault}
    (failed : (openSized size).run host = .error fault after) : Failed host after := by
  rw [openSized_run encoded] at failed
  cases possible : host.faults.openPty with
  | some refusal =>
      simp only [possible] at failed
      cases failed
      exact .ofRefusal (by simp [possible])
  | none =>
      cases resized : host.faults.resize with
      | none => simp [possible, resized] at failed
      | some refusal =>
          cases closed : host.closeFault? .master with
          | none =>
              simp only [possible, resized, closed] at failed
              cases failed
              have able : host.faults.close = none := closed
              apply Failed.ofOpened possible
              · simp
              · intro fd
                cases fd <;> simp [leaves, resized, able]
          | some other =>
              simp only [possible, resized, closed] at failed
              cases failed
              have unable : host.faults.close = some fault := closed
              apply Failed.ofOpened possible
              · simp
              · intro fd
                cases fd <;> simp [leaves, resized, unable]

theorem leaves_master {host : Host} {fault : Fault} (resized : host.faults.resize = none)
    (started : startFault? host = some fault) :
    leaves .master host = !(fault.isSystem || fault.isChildProcess) := by
  simp only [leaves, resized, started]
  rfl

theorem startOn_failed {host after : Host} {bytes : List UInt8} {argv : List String}
    {cwd : Option String} {env : Env} {fault : Fault} (possible : host.faults.openPty = none)
    (resized : host.faults.resize = none)
    (failed : (startOn argv cwd env).run (host.sized bytes) = .error fault after) :
    Failed host after := by
  rw [startOn_run, show startFault? (host.sized bytes) = startFault? host from rfl] at failed
  cases started : startFault? host with
  | none =>
      -- The process has started, so closing the slave end is what failed.
      simp only [started] at failed
      cases closed : (host.sized bytes).closeFault? .slave with
      | none => simp [closed] at failed
      | some refusal =>
          simp only [closed] at failed
          cases failed
          apply Failed.ofOpened possible
          · simp
          · intro fd
            cases fd <;> simp [leaves, resized, started]
  | some refusal =>
      have leftMaster := leaves_master resized started
      cases launcher : refusal.isSystem || refusal.isChildProcess with
      | true =>
          simp only [started, launcher, if_true] at failed
          cases failed
          apply Failed.ofOpened possible
          · simp
          · intro fd
            cases fd with
            | master => simp [leftMaster, launcher]
            | slave => simp [leaves, resized]
      | false =>
          simp only [started, launcher, Bool.false_eq_true, if_false] at failed
          cases failed
          apply Failed.ofOpened possible
          · simp
          · intro fd
            cases fd with
            | master => simp [leftMaster, launcher]
            | slave => simp [leaves, resized]

theorem spawn_failed {argv : List String} {cwd : Option String} {env : Env} {size : TerminalSize}
    {bytes : List UInt8} (encoded : Terminal.encode size.rows size.cols = .ok bytes)
    {host after : Host} {fault : Fault}
    (failed : (spawn argv cwd env size).run host = .error fault after) : Failed host after := by
  unfold spawn at failed
  rw [EStateM.run_bind] at failed
  cases opening : (openSized size).run host with
  | error early last =>
      simp only [opening] at failed
      cases failed
      exact openSized_failed encoded opening
  | ok opened between =>
      simp only [opening] at failed
      obtain ⟨possible, resized, rfl⟩ := openSized_ok encoded opening
      exact startOn_failed possible resized failed

theorem command_failed {command : Command} {size : TerminalSize} {base : Option Env}
    {config : Config} {host after : Host} {fault : Fault}
    (failed : (Launch.command command size base config).run host = .error fault after) :
    Failed host after := by
  unfold Launch.command at failed
  rcases (Sys.OnlyLogs.ofExcept _).bind_error failed with
    logged | ⟨resolved, afterSize, found, sized, failed⟩
  · exact .ofLogged logged
  rcases Sys.OnlyLogs.get.bind_error failed with
    logged | ⟨current, before, _, read, failed⟩
  · exact .ofLogged (sized.trans logged)
  obtain ⟨bytes, encoded⟩ := TerminalSize.resolve_encodes (Sys.ofExcept_ok found).1
  exact (spawn_failed encoded failed).afterLogs (sized.trans read)

theorem shell_failed {size : TerminalSize} {command : Option String} {opts : ShellOptions}
    {base : Option Env} {config : Config} {host after : Host} {fault : Fault}
    (failed : (shell size command opts base config).run host = .error fault after) :
    Failed host after := by
  unfold shell at failed
  rcases (Sys.OnlyLogs.ofExcept _).bind_error failed with
    logged | ⟨resolved, afterSize, found, sized, failed⟩
  · exact .ofLogged logged
  rcases (ShellSearch.detect_onlyLogs _ _).bind_error failed with
    logged | ⟨path, afterSearch, _, searched, failed⟩
  · exact .ofLogged (sized.trans logged)
  rcases (WorkingDirectory.choose_onlyLogs _ _).bind_error failed with
    logged | ⟨cwd, afterChoice, _, chosen, failed⟩
  · exact .ofLogged ((sized.trans searched).trans logged)
  rcases Sys.OnlyLogs.get.bind_error failed with
    logged | ⟨current, before, _, read, failed⟩
  · exact .ofLogged (((sized.trans searched).trans chosen).trans logged)
  obtain ⟨bytes, encoded⟩ := TerminalSize.resolve_encodes (Sys.ofExcept_ok found).1
  rw [EStateM.run_bind] at failed
  cases spawning : (spawn (argvOf path command opts) cwd
      (ChildEnv.build (base.getD current.environ) config opts.env) resolved).run before with
  | ok started last => simp [spawning] at failed
  | error early last =>
      simp only [spawning] at failed
      cases failed
      have prepared := ((sized.trans searched).trans chosen).trans read
      exact (spawn_failed encoded spawning).afterLogs prepared

/-- The launches: of a shell, and of a prepared command. -/
inductive Launching : Sys Unit → Prop
  | shell (size : TerminalSize) (command : Option String) (opts : ShellOptions)
      (base : Option Env) (config : Config) : Launching (shell size command opts base config)
  | command (command : Command) (size : TerminalSize) (base : Option Env) (config : Config) :
      Launching (Launch.command command size base config)

/-- Both ends of a terminal that was opened are closed once, and nothing else is closed. -/
structure ClosesAll (host after : Host) : Prop where
  unopened : after.openings = host.openings ∨ host.faults.openPty ≠ none →
    ∀ fd, after.closes fd = host.closes fd
  opened : after.openings ≠ host.openings → host.faults.openPty = none →
    ∀ fd, after.closes fd = host.closes fd + 1

/-- A launch that fails never closes a descriptor twice, nor one that it did not open, and it closes
all that it opened but for the cases of `leaves`. -/
theorem launching_failed {launch : Sys Unit} (launching : Launching launch) {host after : Host}
    {fault : Fault} (failed : launch.run host = .error fault after) :
    Failed host after ∧
      (ClosesAll host after ↔ (after.openings ≠ host.openings → host.faults.openPty = none →
        ∀ fd, leaves fd host = false)) := by
  have outcome : Failed host after := by
    cases launching with
    | shell size command opts base config => exact shell_failed failed
    | command command size base config => exact command_failed failed
  refine ⟨outcome, ?_, ?_⟩
  · intro closed reached possible fd
    have once := closed.opened reached possible fd
    have counted := (outcome.opened reached possible fd).1
    cases left : leaves fd host with
    | false => rfl
    | true =>
        rw [once, left] at counted
        simp at counted
  · intro nothing
    refine ⟨outcome.unopened, ?_⟩
    intro reached possible fd
    rw [(outcome.opened reached possible fd).1, nothing reached possible fd]
    rfl

def missing : Host :=
  { Host.plain with
    faults :=
      { Host.plain.faults with
        start := some (.system 2 "No such file or directory" (some "true"))
        close := some (.system 5 "Input/output error" none) } }

theorem launching_missing :
    ∃ fault after, (Launch.command idle ⟨24, 80⟩ none Config.default).run missing =
      .error fault after ∧ Failed missing after ∧ ClosesAll missing after := by
  obtain ⟨fault, after, failed⟩ : ∃ fault after,
      (Launch.command idle ⟨24, 80⟩ none Config.default).run missing = .error fault after :=
    ⟨_, _, rfl⟩
  have outcome := launching_failed (.command idle ⟨24, 80⟩ none Config.default) failed
  refine ⟨fault, after, failed, outcome.1, outcome.2.mpr ?_⟩
  intro _ _ fd
  cases fd <;> rfl

def misused : Host :=
  { Host.plain with
    faults := { Host.plain.faults with start := some (.invalid "embedded null byte") } }

def sizeless : Host :=
  { Host.plain with
    faults :=
      { Host.plain.faults with
        resize := some (.system 25 "Inappropriate ioctl for device" none)
        close := some (.system 5 "Input/output error" none) } }

/-- Each end of the terminal may stay open. -/
theorem launching_not_closesAll :
    (∃ after, (Launch.command idle ⟨24, 80⟩ none Config.default).run misused =
        .error (.invalid "embedded null byte") after ∧
      after.openings = 1 ∧ after.closes .master = 0 ∧ after.openFds = [.master] ∧
        ¬ClosesAll misused after) ∧
    (∃ after, (Launch.command idle ⟨24, 80⟩ none Config.default).run sizeless =
        .error (.system 5 "Input/output error" none) after ∧
      after.openings = 1 ∧ after.closes .slave = 0 ∧ after.openFds = [.slave] ∧
        ¬ClosesAll sizeless after) := by
  refine ⟨⟨_, rfl, rfl, rfl, rfl, ?_⟩, ⟨_, rfl, rfl, rfl, rfl, ?_⟩⟩
  · intro closed
    have once := closed.opened (by decide) rfl .master
    cases once
  · intro closed
    have once := closed.opened (by decide) rfl .slave
    cases once

end Launch

end PtyShell
