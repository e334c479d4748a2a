import PtyShell.Proofs.Launch.Preparation

namespace PtyShell

def Event.isLaunching : Event → Bool
  | .openPty | .resize .. | .start _ | .claimTerminal | .close .slave _ | .log .. => true
  | _ => false

theorem Event.isLaunching_of_isLog (event : Event) (log : event.isLog = true) :
    event.isLaunching = true := by
  cases event <;> cases log
  rfl

/-- A launch on a host has succeeded. -/
structure Host.Started (before after : Host) : Prop where
  same : before.SameMachine after
  opened : after.openFds = [.master]
  calls : ∃ calls, after.trace = before.trace ++ calls ∧ ∀ event ∈ calls, event.isLaunching = true

namespace Host.Started

variable {before after : Host}

theorem count (started : before.Started after) {property : Event → Bool}
    (silent : ∀ event, event.isLaunching = true → property event = false) :
    after.trace.countP property = before.trace.countP property := by
  obtain ⟨calls, trace, launching⟩ := started.calls
  have none : calls.countP property = 0 := by
    rw [List.countP_eq_zero]
    intro event member holds
    rw [silent event (launching event member)] at holds
    cases holds
  rw [trace, List.countP_append, none, Nat.add_zero]

theorem kills (started : before.Started after) : after.kills = before.kills := by
  apply started.count
  intro event launching
  cases event <;> first | rfl | cases launching

theorem waits (started : before.Started after) : after.waits = before.waits := by
  apply started.count
  intro event launching
  cases event <;> first | rfl | cases launching

theorem notices (started : before.Started after) : after.notices = before.notices := by
  obtain ⟨calls, trace, launching⟩ := started.calls
  have silent : calls.filterMap Event.notice? = [] := by
    rw [List.filterMap_eq_nil_iff]
    intro event member
    have quiet := launching event member
    cases event <;> first | rfl | cases quiet
  unfold Host.notices
  rw [trace, List.filterMap_append, silent, List.append_nil]

theorem trace (started : before.Started after) : before.trace <+: after.trace := by
  obtain ⟨calls, trace, _⟩ := started.calls
  rw [trace]
  exact List.prefix_append _ _

theorem output (started : before.Started after) : after.output = before.output := by
  rw [started.same]

theorem pid (started : before.Started after) : after.pid = before.pid := by
  rw [started.same]

theorem faults (started : before.Started after) : after.faults = before.faults := by
  rw [started.same]

theorem killable (started : before.Started after) : after.killable = before.killable := by
  rw [started.same]

theorem returncode (started : before.Started after) : after.returncode = before.returncode := by
  rw [started.same]

theorem waitFaults (started : before.Started after) : after.waitFaults = before.waitFaults := by
  rw [started.same]

theorem continues (started : before.Started after) : before.Continues after where
  pid := started.pid
  faults := started.faults
  waitFaults := ⟨[], started.waitFaults⟩
  returncode := by
    intro code ended
    rw [started.returncode]
    exact ended
  trace := started.trace

theorem isOpen (started : before.Started after) : after.isOpen .master = true := by
  unfold Host.isOpen
  rw [started.opened]
  rfl

theorem afterLogs {host : Host} (logged : host.Logged before) (started : before.Started after) :
    host.Started after where
  same := by
    have same : host.SameMachine before := by
      unfold SameMachine
      rw [logged.same]
    exact same.trans started.same
  opened := started.opened
  calls := by
    obtain ⟨logs, early, records⟩ := logged.logs
    obtain ⟨calls, trace, launching⟩ := started.calls
    refine ⟨logs ++ calls, by rw [trace, early, List.append_assoc], ?_⟩
    intro event member
    rcases List.mem_append.mp member with old | new
    · exact event.isLaunching_of_isLog (records event old)
    · exact launching event new

theorem log (started : before.Started after) (level : Level) (logger : Logger)
    (message : String) : before.Started (after.record (.log level logger message)) where
  same := started.same.trans rfl
  opened := started.opened
  calls := by
    obtain ⟨calls, trace, launching⟩ := started.calls
    refine ⟨calls ++ [.log level logger message], ?_, ?_⟩
    · rw [record_trace, trace, List.append_assoc]
    · intro event member
      rcases List.mem_append.mp member with old | new
      · exact launching event old
      · rw [List.mem_singleton.mp new]
        rfl

end Host.Started

namespace Launch

theorem spawned_started (bytes : List UInt8) (request : StartRequest) (host : Host) :
    host.Started (((host.sized bytes).asked request).closed .slave) where
  same := ((Host.SameMachine.sized bytes host).trans (.asked _ _)).trans (.closed .slave _)
  opened := by simp
  calls := by
    refine ⟨_, by
      simp only [Host.closed, Host.asked, Host.sized, Host.opened, Host.record, List.append_assoc]
      rfl, ?_⟩
    intro event member
    simp only [List.mem_append, List.mem_cons, List.not_mem_nil, or_false] at member
    rcases member with rfl | rfl | (rfl | claim) | rfl
    · rfl
    · rfl
    · rfl
    · split at claim
      · rw [List.mem_singleton.mp claim]
        rfl
      · cases claim
    · rfl

theorem command_started {command : Command} {size : TerminalSize} {base : Option Env}
    {config : Config} {host after : Host}
    (launched : (Launch.command command size base config).run host = .ok () after) :
    host.Started after := by
  obtain ⟨bytes, env, rfl⟩ := command_ok launched
  exact spawned_started bytes _ host

theorem shell_started {size : TerminalSize} {command : Option String} {opts : ShellOptions}
    {base : Option Env} {config : Config} {host after : Host}
    (launched : (shell size command opts base config).run host = .ok () after) :
    host.Started after := by
  unfold shell at launched
  obtain ⟨resolved, afterSize, found, rest⟩ := Sys.bind_ok launched
  obtain ⟨resolves, rfl⟩ := Sys.ofExcept_ok found
  obtain ⟨path, afterSearch, detected, rest⟩ := Sys.bind_ok rest
  obtain ⟨cwd, afterChoice, chosen, rest⟩ := Sys.bind_ok rest
  obtain ⟨current, before, read, rest⟩ := Sys.bind_ok rest
  cases read
  obtain ⟨_, spawned, ran, logs⟩ := Sys.bind_ok rest
  cases logs
  obtain ⟨bytes, encoded⟩ := TerminalSize.resolve_encodes resolves
  have searched := (ShellSearch.detect_onlyLogs base config).ok detected
  have decided := (WorkingDirectory.choose_onlyLogs base opts.cwd).ok chosen
  rw [spawn_ok encoded ran]
  exact ((spawned_started bytes _ _).log _ _ _).afterLogs (searched.trans decided)

def plainShell : Sys Unit :=
  shell ⟨24, 80⟩ (some "x") ShellOptions.default none Config.default

def afterShell (host : Host) : Host :=
  match plainShell.run host with
  | .ok _ host | .error _ host => host

end Launch

end PtyShell
