import PtyShell.Proofs.Launch.Choices
import PtyShell.Proofs.Runner.Step

namespace PtyShell

def Event.isSetup : Event → Bool
  | .openPty | .resize .. | .start _ => true
  | _ => false

/-- What came to a host has set up exactly this, and left its environment alone. -/
structure Host.Gains (before after : Host) (setup : List Event) : Prop where
  environ : after.environ = before.environ
  trace : ∃ calls, after.trace = before.trace ++ calls ∧ calls.filter Event.isSetup = setup

namespace Host.Gains

theorem refl (host : Host) : host.Gains host [] :=
  ⟨rfl, [], (List.append_nil _).symm, rfl⟩

theorem trans {first second third : Host} {early late : List Event}
    (one : first.Gains second early) (two : second.Gains third late) :
    first.Gains third (early ++ late) where
  environ := two.environ.trans one.environ
  trace := by
    obtain ⟨calls, grown, setup⟩ := one.trace
    obtain ⟨others, extended, more⟩ := two.trace
    refine ⟨calls ++ others, ?_, ?_⟩
    · rw [extended, grown, List.append_assoc]
    · rw [List.filter_append, setup, more]

theorem idle {first second third : Host} {setup : List Event} (one : first.Gains second setup)
    (two : second.Gains third []) : first.Gains third setup := by
  have both := one.trans two
  rwa [List.append_nil] at both

theorem unique {before after : Host} {early late : List Event} (one : before.Gains after early)
    (two : before.Gains after late) : early = late := by
  obtain ⟨calls, grown, setup⟩ := one.trace
  obtain ⟨others, extended, more⟩ := two.trace
  have same : calls = others := List.append_cancel_left (grown.symm.trans extended)
  rw [← setup, ← more, same]

theorem record (event : Event) (host : Host) :
    host.Gains (host.record event) ([event].filter Event.isSetup) :=
  ⟨rfl, [event], rfl, rfl⟩

theorem logged {before after : Host} (logged : before.Logged after) : before.Gains after [] where
  environ := by rw [logged.same]
  trace := by
    obtain ⟨logs, grown, records⟩ := logged.logs
    refine ⟨logs, grown, List.filter_eq_nil_iff.mpr ?_⟩
    intro event member setup
    have log := records event member
    cases event with
    | log level logger message => cases setup
    | _ => cases log

theorem sized (bytes : List UInt8) (host : Host) :
    host.Gains (host.sized bytes) [.openPty, .resize .master bytes] := by
  refine ⟨rfl, [.openPty, .resize .master bytes], ?_, rfl⟩
  simp [Host.sized, opened, Host.record]

theorem asked (request : StartRequest) (host : Host) :
    host.Gains (host.asked request) [.start request] := by
  refine ⟨rfl, _, rfl, ?_⟩
  split <;> rfl

theorem closed (fd : Fd) (host : Host) : host.Gains (host.closed fd) [] :=
  ⟨rfl, [.close fd host.unread], rfl, rfl⟩

theorem killed (host : Host) : host.Gains host.killed [] := by
  refine ⟨?_, [.kill], killed_trace host, rfl⟩
  unfold Host.killed
  split <;> rfl

theorem enterWait (host : Host) : host.Gains host.enterWait.2 [] :=
  ⟨rfl, [.wait], rfl, rfl⟩

theorem exit (code : Int) (host : Host) : host.Gains (host.exit code) [] :=
  ⟨rfl, [], (List.append_nil _).symm, rfl⟩

theorem drained {fd : Option Fd} {host : Host} {point : DrainPoint} {progress : Drain.Progress}
    (taken : Drain.Step fd host point progress) : host.Gains progress.host [] where
  environ := by rw [taken.same]
  trace := by
    rcases taken.trace with read | still
    · exact ⟨_, read, rfl⟩
    · exact ⟨[], still.trans (List.append_nil _).symm, rfl⟩

end Host.Gains

namespace Run

theorem Goes.gains {run : Run} {before after : RunPoint} {host : Host}
    (taken : run.Goes before host after) : run.host.Gains host [] := by
  cases taken with
  | wait able | waitFailed refused | waitAgain able | waitAgainFailed refused =>
      exact .enterWait run.host
  | kill possible => exact .killed run.host
  | killFailed refused => exact .record .kill run.host
  | closeFailed refused | closeAfterFault possible | close possible =>
      exact .closed .master run.host
  | fail nonzero => exact .record _ run.host
  | _ => exact .refl run.host

theorem Moved.gains {run after : Run} {move : RunMove} (moved : run.Moved move after) :
    run.host.Gains after.host [] := by
  cases moved with
  | main taken => exact taken.gains
  | drain taken => exact .drained taken
  | stay stuck => exact .refl run.host
  | exit code => exact .exit code run.host

theorem play_gains (run : Run) (moves : List RunMove) :
    run.host.Gains (run.play moves).host [] :=
  play_keeps (fun later => run.host.Gains later.host [])
    (fun _ _ _ moved gained => gained.idle moved.gains) moves run (.refl run.host)

end Run

theorem Host.Gains.report {before host : Host} {action : Sys Unit} {setup : List Event}
    (gains : before.Gains (action.leaves host) setup) (level : Level) (logger : Logger)
    (message : String) :
    before.Gains ((do action; Sys.log level logger message : Sys Unit).leaves host) setup := by
  rw [Sys.leaves_bind]
  unfold Sys.leaves at gains
  cases ran : action.run host with
  | error fault after =>
      simp only [ran] at gains ⊢
      exact gains
  | ok _ after =>
      simp only [ran] at gains ⊢
      exact gains.idle (.record _ after)

namespace Launch

def setup (host : Host) (bytes : List UInt8) (request : StartRequest) : List Event :=
  if host.faults.openPty ≠ none then [.openPty]
  else if host.faults.resize ≠ none then [.openPty, .resize .master bytes]
  else [.openPty, .resize .master bytes, .start request]

theorem mem_setup {host : Host} {bytes : List UInt8} {request wanted : StartRequest}
    (member : .start wanted ∈ setup host bytes request) : wanted = request := by
  unfold setup at member
  split at member
  · simp at member
  · split at member
    · simp at member
    · simpa using member

theorem openSized_gains {size : TerminalSize} {bytes : List UInt8}
    (encoded : Terminal.encode size.rows size.cols = .ok bytes) (host : Host) :
    host.Gains ((openSized size).leaves host)
      (if host.faults.openPty ≠ none then [.openPty] else [.openPty, .resize .master bytes]) := by
  unfold Sys.leaves
  rw [openSized_run encoded]
  cases host.faults.openPty with
  | some fault => exact .record .openPty host
  | none =>
      have sized := Host.Gains.sized bytes host
      cases host.faults.resize with
      | none => exact sized
      | some fault =>
          cases host.closeFault? .master with
          | none => exact (sized.idle (.closed .master _)).idle (.closed .slave _)
          | some refusal => exact sized.idle (.closed .master _)

theorem startOn_gains (argv : List String) (cwd : Option String) (env : Env) (host : Host) :
    host.Gains ((startOn argv cwd env).leaves host)
      [.start (request host.platform argv cwd env)] := by
  have asked := Host.Gains.asked (request host.platform argv cwd env) host
  unfold Sys.leaves
  rw [startOn_run]
  cases startFault? host with
  | none => cases host.closeFault? .slave <;> exact asked.idle (.closed .slave _)
  | some fault =>
      simp only
      cases fault.isSystem || fault.isChildProcess with
      | true => exact (asked.idle (.closed .master _)).idle (.closed .slave _)
      | false => exact asked.idle (.closed .slave _)

theorem spawn_gains (argv : List String) (cwd : Option String) (env : Env) {size : TerminalSize}
    {bytes : List UInt8} (encoded : Terminal.encode size.rows size.cols = .ok bytes) (host : Host) :
    host.Gains ((spawn argv cwd env size).leaves host)
      (setup host bytes (request host.platform argv cwd env)) := by
  have opened := openSized_gains encoded host
  unfold spawn setup
  rw [Sys.leaves_bind]
  unfold Sys.leaves at opened
  cases ran : (openSized size).run host with
  | ok _ between =>
      obtain ⟨possible, resized, rfl⟩ := openSized_ok encoded ran
      rw [if_neg (not_not_intro possible), if_neg (not_not_intro resized)]
      exact (Host.Gains.sized bytes host).trans (startOn_gains argv cwd env _)
  | error fault after =>
      -- The first stage failed, so the terminal was not opened or could not be sized.
      simp only [ran] at opened ⊢
      by_cases possible : host.faults.openPty = none
      · rw [if_neg (not_not_intro possible)] at opened ⊢
        rw [openSized_run encoded, possible] at ran
        rw [if_pos]
        · exact opened
        · intro resized
          simp [resized] at ran
      · rw [if_pos possible] at opened ⊢
        exact opened

inductive Target
  /-- A shell, for a command or as a top-level one. -/
  | shell (command : Option String) (opts : ShellOptions)
  /-- A prepared command that is run to its end. -/
  | command (prepared : Command)
  deriving DecidableEq, Repr

namespace Target

def overrides : Target → Env
  | shell _ opts => opts.env
  | command prepared => prepared.env

def argv (base : Option Env) (config : Config) (host : Host) : Target → List String
  | shell text opts =>
    argvOf (ShellSearch.first host (ShellSearch.candidates (base.getD host.environ) config))
      text opts
  | command prepared => prepared.argv.words

def request (target : Target) (base : Option Env) (config : Config) (host : Host)
    (cwd : Option String) : StartRequest :=
  Launch.request host.platform (target.argv base config host) cwd
    (ChildEnv.build (base.getD host.environ) config target.overrides)

def StartsIn (base : Option Env) (host : Host) (cwd : Option String) : Target → Prop
  | shell _ opts => ∃ records, WorkingDirectory.Chosen host base opts.cwd cwd records
  | command prepared => cwd = prepared.cwd

/-- The hosts that a call for a target may leave, at its end or on its way. -/
inductive Reaches (size : TerminalSize) (base : Option Env) (config : Config) (host : Host) :
    Target → Host → Prop
  | shell (text : Option String) (opts : ShellOptions) :
      Reaches size base config host (shell text opts)
        ((Launch.shell size text opts base config).leaves host)
  | run (prepared : Command) :
      Reaches size base config host (command prepared)
        (Runner.run prepared size base config host).2
  /-- A run after any moves of its threads and of the process. -/
  | running {prepared : Command} {started : Host}
      (launched : (Launch.command prepared size base config).run host = .ok () started)
      (moves : List RunMove) :
      Reaches size base config host (command prepared)
        ((Run.ofHost prepared.argv.words started).play moves).host

def Refused (size : TerminalSize) (base : Option Env) (config : Config) (host : Host)
    (fault : Fault) : Target → Prop
  | shell text opts => (Launch.shell size text opts base config).run host = .error fault host
  | command prepared =>
    Runner.run prepared size base config host = (some (.fault fault), host)

end Target

section Calls

variable {size resolved : TerminalSize} {base : Option Env} {config : Config} {host : Host}
  {bytes : List UInt8}

theorem shell_gains (resolves : size.resolve config.defaultSize = .ok resolved)
    (encoded : Terminal.encode resolved.rows resolved.cols = .ok bytes) (text : Option String)
    (opts : ShellOptions) {cwd : Option String}
    (starts : (Target.shell text opts).StartsIn base host cwd) :
    host.Gains ((shell size text opts base config).leaves host)
      (setup host bytes ((Target.shell text opts).request base config host cwd)) := by
  obtain ⟨records, chosen⟩ := starts
  have detected := ShellSearch.detect_run base config host
  generalize ShellSearch.records host
    (ShellSearch.candidates (base.getD host.environ) config) = early at detected
  have searched := (ShellSearch.detect_onlyLogs base config).ok detected
  have spawned := spawn_gains ((Target.shell text opts).argv base config host) cwd
    (ChildEnv.build (base.getD host.environ) config opts.env) encoded
    ((host.recordAll early).recordAll records)
  unfold Sys.leaves
  rw [shell_settled resolves detected chosen]
  exact ((Host.Gains.logged (searched.trans (chosen.logged _))).trans spawned).report _ _ _

theorem shell_idle (resolves : size.resolve config.defaultSize = .ok resolved)
    (text : Option String) (opts : ShellOptions)
    (stays : ∀ cwd, ¬(Target.shell text opts).StartsIn base host cwd) :
    host.Gains ((shell size text opts base config).leaves host) [] := by
  have searched := (ShellSearch.detect_onlyLogs base config).ok
    (ShellSearch.detect_run base config host)
  unfold shell
  rw [Sys.leaves_bind, Sys.ofExcept_run, resolves]
  simp only [Sys.leaves_bind, ShellSearch.detect_run]
  cases chosen : (WorkingDirectory.choose base opts.cwd).run (host.recordAll (ShellSearch.records
      host (ShellSearch.candidates (base.getD host.environ) config))) with
  | error fault after =>
      have decided := (WorkingDirectory.choose_onlyLogs base opts.cwd).error chosen
      exact .logged (searched.trans decided)
  | ok cwd after =>
      obtain ⟨records, found, _⟩ := WorkingDirectory.choose_ok_iff.mp chosen
      exact absurd ⟨records, WorkingDirectory.chosen_recordAll.mp found⟩ (stays cwd)

theorem command_gains (resolves : size.resolve config.defaultSize = .ok resolved)
    (encoded : Terminal.encode resolved.rows resolved.cols = .ok bytes) (base : Option Env)
    (host : Host) (prepared : Command) :
    host.Gains ((command prepared size base config).leaves host)
      (setup host bytes ((Target.command prepared).request base config host prepared.cwd)) := by
  unfold command
  rw [Sys.leaves_bind, Sys.ofExcept_run, resolves]
  simp only
  rw [Sys.leaves_bind, EStateM.run_get]
  exact spawn_gains _ _ _ encoded host

theorem shell_refused {fault : Fault} (refuses : size.resolve config.defaultSize = .error fault)
    (text : Option String) (opts : ShellOptions) :
    (shell size text opts base config).run host = .error fault host := by
  unfold shell
  rw [EStateM.run_bind, Sys.ofExcept_run, refuses]

theorem command_refused {fault : Fault} (refuses : size.resolve config.defaultSize = .error fault)
    (prepared : Command) :
    (command prepared size base config).run host = .error fault host := by
  unfold command
  rw [EStateM.run_bind, Sys.ofExcept_run, refuses]

theorem running_gains {prepared : Command} {started : Host} {setup : List Event}
    (launched : (command prepared size base config).run host = .ok () started)
    (gains : host.Gains ((command prepared size base config).leaves host) setup)
    (moves : List RunMove) :
    host.Gains ((Run.ofHost prepared.argv.words started).play moves).host setup := by
  unfold Sys.leaves at gains
  simp only [launched] at gains
  have running := gains.idle (.record
    (.log .debug .runner (Run.runningMessage started.pid prepared.argv.words)) started)
  exact running.idle (Run.play_gains (Run.ofHost prepared.argv.words started) moves)

theorem run_leaves (prepared : Command) (size : TerminalSize) (base : Option Env) (config : Config)
    (host : Host) :
    (Runner.run prepared size base config host).2 =
        (command prepared size base config).leaves host ∨
      ∃ started moves, (command prepared size base config).run host = .ok () started ∧
        (Runner.run prepared size base config host).2 =
          ((Run.ofHost prepared.argv.words started).play moves).host := by
  unfold Runner.run Sys.leaves
  cases launched : (command prepared size base config).run host with
  | error fault after => exact Or.inl rfl
  | ok _ started =>
      obtain ⟨⟨moves, played⟩, _⟩ :=
        Run.complete_play _ _ (Run.remaining_ofHost prepared.argv.words started)
      refine Or.inr ⟨started, moves, rfl, ?_⟩
      simp only
      rw [played]

namespace Target

variable {target : Target} {after : Host}

/-- However far a call for a target has come, it has set up the same. -/
theorem Reaches.gains (reached : target.Reaches size base config host after)
    (resolves : size.resolve config.defaultSize = .ok resolved)
    (encoded : Terminal.encode resolved.rows resolved.cols = .ok bytes) {cwd : Option String}
    (starts : target.StartsIn base host cwd) :
    host.Gains after (setup host bytes (target.request base config host cwd)) := by
  cases reached with
  | shell text opts => exact shell_gains resolves encoded text opts starts
  | run prepared =>
      cases starts
      have gains := command_gains resolves encoded base host prepared
      rcases run_leaves prepared size base config host with
        left | ⟨started, moves, launched, left⟩
      · rw [left]
        exact gains
      · rw [left]
        exact running_gains launched gains moves
  | running launched moves =>
      cases starts
      exact running_gains launched (command_gains resolves encoded base host _) moves

theorem Reaches.idle (reached : target.Reaches size base config host after)
    (resolves : size.resolve config.defaultSize = .ok resolved)
    (stays : ∀ cwd, ¬target.StartsIn base host cwd) : host.Gains after [] := by
  cases reached with
  | shell text opts => exact shell_idle resolves text opts stays
  | run prepared => exact absurd rfl (stays prepared.cwd)
  | @running prepared _ launched moves => exact absurd rfl (stays prepared.cwd)

theorem refused_of_size {fault : Fault} (refuses : size.resolve config.defaultSize = .error fault)
    (base : Option Env) (host : Host) (target : Target) :
    target.Refused size base config host fault := by
  cases target with
  | shell text opts => exact shell_refused refuses text opts
  | command prepared =>
      show Runner.run prepared size base config host = _
      unfold Runner.run
      rw [command_refused refuses prepared]

theorem Reaches.refused {fault : Fault} (reached : target.Reaches size base config host after)
    (refuses : size.resolve config.defaultSize = .error fault) : after = host := by
  cases reached with
  | shell text opts =>
      unfold Sys.leaves
      rw [shell_refused refuses text opts]
  | run prepared =>
      unfold Runner.run
      rw [command_refused refuses prepared]
  | @running prepared _ launched moves =>
      rw [command_refused refuses prepared] at launched
      cases launched

theorem Reaches.asks (reached : target.Reaches size base config host after) :
    ∃ setup, host.Gains after setup ∧ ∀ wanted, .start wanted ∈ setup →
      ∃ cwd, target.StartsIn base host cwd ∧ wanted = target.request base config host cwd := by
  cases resolves : size.resolve config.defaultSize with
  | error fault =>
      rw [reached.refused resolves]
      exact ⟨[], .refl host, fun _ member => absurd member List.not_mem_nil⟩
  | ok resolved =>
      obtain ⟨bytes, encoded⟩ := TerminalSize.resolve_encodes resolves
      by_cases starts : ∃ cwd, target.StartsIn base host cwd
      · obtain ⟨cwd, starts⟩ := starts
        refine ⟨_, reached.gains resolves encoded starts, ?_⟩
        intro wanted member
        exact ⟨cwd, starts, mem_setup member⟩
      · -- Without a directory to start in the launch ends before its first call.
        have stays : ∀ cwd, ¬target.StartsIn base host cwd := fun cwd found => starts ⟨cwd, found⟩
        exact ⟨[], reached.idle resolves stays, fun _ member => absurd member List.not_mem_nil⟩

end Target

end Calls

end Launch

end PtyShell
