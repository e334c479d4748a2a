import PtyShell.Proofs.Launch.Choices

/-! # A shell that was started

A shell is started if its size, its directory and every stage allow it, and the host then shows
nothing but the calls of the stages in their order, between the records of what was chosen and the
record of the start. The arguments of the shell tell how it was to be started. -/

namespace PtyShell

namespace Launch

section Arguments

theorem argvOf_eq (path : String) (command : Option String) (opts : ShellOptions) :
    argvOf path command opts = path :: ((if opts.login then ["-l"] else []) ++
      (if opts.interactive then ["-i"] else []) ++
        (if command.getD "" = "" then [] else ["-c", command.getD ""])) := by
  simp [argvOf]

def takeFlag (flag : String) : List String → Bool × List String
  | [] => (false, [])
  | word :: words => if word = flag then (true, words) else (false, word :: words)

structure Invocation where
  shell : String
  login : Bool
  interactive : Bool
  /-- The command to run, no text for a top-level shell. -/
  command : String
  deriving DecidableEq, Repr

def Invocation.ofArgv? : List String → Option Invocation
  | [] => none
  | shell :: words =>
    let (login, words) := takeFlag "-l" words
    let (interactive, words) := takeFlag "-i" words
    match words with
    | [] => some ⟨shell, login, interactive, ""⟩
    | ["-c", command] => some ⟨shell, login, interactive, command⟩
    | _ => none

theorem takeFlag_append {flag : String} {words : List String} (other : words.head? ≠ some flag)
    (given : Bool) : takeFlag flag ((if given then [flag] else []) ++ words) = (given, words) := by
  cases given with
  | true => simp [takeFlag]
  | false =>
      cases words with
      | nil => rfl
      | cons word words =>
          have different : word ≠ flag := fun same => other (by rw [same]; rfl)
          simp [takeFlag, different]

/-- The arguments of a shell tell how it was to be started, whatever its command looks like. -/
theorem ofArgv?_argvOf (path : String) (command : Option String) (opts : ShellOptions) :
    Invocation.ofArgv? (argvOf path command opts) =
      some ⟨path, opts.login, opts.interactive, command.getD ""⟩ := by
  have shape := argvOf_eq path command opts
  rw [List.append_assoc] at shape
  generalize command.getD "" = text at shape ⊢
  have last (flag : String) (other : "-c" ≠ flag) :
      (if text = "" then [] else ["-c", text]).head? ≠ some flag := by
    split <;> simp [other]
  have flags : ((if opts.interactive then ["-i"] else []) ++
      (if text = "" then [] else ["-c", text])).head? ≠ some "-l" := by
    cases opts.interactive with
    | true => simp
    | false => simpa using last "-l" (by decide)
  rw [shape]
  simp only [Invocation.ofArgv?, takeFlag_append flags,
    takeFlag_append (last "-i" (by decide))]
  by_cases empty : text = ""
  · simp [empty]
  · simp [empty]

example : Invocation.ofArgv? (argvOf "/bin/sh" (some "-l") ShellOptions.default) =
    some ⟨"/bin/sh", false, false, "-l"⟩ := by decide

end Arguments

/-- What a launch of a shell has settled by the time it opens a terminal. -/
structure Plan where
  size : TerminalSize
  /-- The size as the terminal takes it. -/
  encoded : List UInt8
  /-- The path of the shell. -/
  path : String
  /-- What was recorded of looking for the shell. -/
  searched : List Event
  /-- What was recorded of choosing the directory. -/
  settled : List Event
  request : StartRequest

namespace Plan

def events (plan : Plan) (host : Host) : List Event :=
  plan.searched ++ plan.settled ++ [.openPty, .resize .master plan.encoded, .start plan.request] ++
    (if plan.request.claimTerminal then [.claimTerminal] else []) ++
      [.close .slave host.unread,
        .log .info .launcher
          (startedMessage host.pid plan.size plan.request.cwd plan.request.argv)]

/-- A plan is the one that a launch makes on a host, and no stage of it fails. -/
structure Succeeds (plan : Plan) (size : TerminalSize) (command : Option String)
    (opts : ShellOptions) (base : Option Env) (config : Config) (host : Host) : Prop where
  resolved : size.resolve config.defaultSize = .ok plan.size
  encoded : Terminal.encode plan.size.rows plan.size.cols = .ok plan.encoded
  detected : (ShellSearch.detect base config).run host =
    .ok plan.path (host.recordAll plan.searched)
  searched : ∀ event ∈ plan.searched, ∃ message, event = .log .debug .shellSearch message
  directory : WorkingDirectory.Chosen host base opts.cwd plan.request.cwd plan.settled
  argv : plan.request.argv = plan.path :: ((if opts.login then ["-l"] else []) ++
    (if opts.interactive then ["-i"] else []) ++
      (if command.getD "" = "" then [] else ["-c", command.getD ""]))
  /-- The arguments can be read in one way only. -/
  invocation : Invocation.ofArgv? plan.request.argv =
    some ⟨plan.path, opts.login, opts.interactive, command.getD ""⟩
  env : plan.request.env = ChildEnv.build (base.getD host.environ) config opts.env
  streams : plan.request.stdin = .slave ∧ plan.request.stdout = .slave ∧
    plan.request.stderr = .slave
  apart : plan.request.closeOthers = true ∧ plan.request.newSession = true
  claims : plan.request.claimTerminal = true ↔ Terminal.Claimable host.platform
  opens : host.faults.openPty = none
  sizes : host.faults.resize = none
  starts : host.faults.start = none
  acquires : plan.request.claimTerminal = true → host.faults.claimTerminal = none
  closes : host.faults.closeSlave = none

end Plan

theorem spawn_ok_iff {argv : List String} {cwd : Option String} {env : Env} {size : TerminalSize}
    {bytes : List UInt8} (encoded : Terminal.encode size.rows size.cols = .ok bytes)
    {host after : Host} :
    (spawn argv cwd env size).run host = .ok () after ↔
      (host.faults.openPty = none ∧ host.faults.resize = none ∧
        startFault? host = none ∧ host.faults.closeSlave = none) ∧
          after =
            ((host.sized bytes).asked (request host.platform argv cwd env)).closed .slave := by
  constructor
  · intro spawned
    obtain ⟨_, between, opened, started⟩ := Sys.bind_ok spawned
    obtain ⟨possible, resized, rfl⟩ := openSized_ok encoded opened
    obtain ⟨able, closes, rfl⟩ := startOn_ok started
    exact ⟨⟨possible, resized, able, closes⟩, rfl⟩
  · rintro ⟨⟨possible, resized, able, closes⟩, rfl⟩
    unfold spawn
    rw [EStateM.run_bind, openSized_run encoded, possible, resized]
    simp only [startOn_run]
    rw [show startFault? (host.sized bytes) = none from able,
      show (host.sized bytes).closeFault? .slave = none from closes]
    rfl

theorem startFault_eq_none {host : Host} :
    startFault? host = none ↔
      host.faults.start = none ∧
        (Terminal.Claimable host.platform → host.faults.claimTerminal = none) := by
  rw [← Terminal.canClaim_iff]
  unfold startFault?
  cases host.faults.start with
  | some fault => simp
  | none => cases Terminal.canClaim host.platform <;> simp

theorem spawned_eq {host : Host} {request : StartRequest} (starts : host.faults.start = none)
    (bytes : List UInt8) :
    ((host.sized bytes).asked request).closed .slave =
      { host with
        openFds := [.master]
        trace := host.trace ++ ([.openPty, .resize .master bytes, .start request] ++
          (if request.claimTerminal then [.claimTerminal] else []) ++
            [.close .slave host.unread]) } := by
  have unread : ((host.sized bytes).asked request).unread = host.unread := rfl
  unfold Host.closed
  rw [unread]
  simp only [Host.asked, starts, true_and, Host.record, Host.sized, Host.opened,
    List.append_assoc]
  rfl

theorem Plan.launched_eq (plan : Plan) {host : Host} (starts : host.faults.start = none) :
    (((((host.recordAll plan.searched).recordAll plan.settled).sized plan.encoded).asked
      plan.request).closed .slave).record
        (.log .info .launcher
          (startedMessage host.pid plan.size plan.request.cwd plan.request.argv)) =
      { host with openFds := [.master], trace := host.trace ++ plan.events host } := by
  have ready : ((host.recordAll plan.searched).recordAll plan.settled).faults.start = none := starts
  rw [spawned_eq ready]
  simp only [Host.record, Host.recordAll, events, List.append_assoc]
  rfl

theorem request_eq {wanted : StartRequest} {platform : String} {argv : List String} {env : Env}
    (words : wanted.argv = argv) (environ : wanted.env = env)
    (streams : wanted.stdin = .slave ∧ wanted.stdout = .slave ∧ wanted.stderr = .slave)
    (apart : wanted.closeOthers = true ∧ wanted.newSession = true)
    (claims : wanted.claimTerminal = true ↔ Terminal.Claimable platform) :
    request platform argv wanted.cwd env = wanted := by
  have claims : wanted.claimTerminal = Terminal.canClaim platform :=
    Bool.eq_iff_iff.mpr (claims.trans Terminal.canClaim_iff.symm)
  obtain ⟨input, output, errors⟩ := streams
  obtain ⟨closed, session⟩ := apart
  cases wanted
  subst words environ input output errors closed session claims
  rfl

/-- A shell is started exactly if there is a plan for it of which no stage fails. The host then has
the master end of its terminal open and shows the events of the plan, and is otherwise as before. -/
theorem shell_ok_iff (size : TerminalSize) (command : Option String) (opts : ShellOptions)
    (base : Option Env) (config : Config) (host after : Host) :
    (shell size command opts base config).run host = .ok () after ↔
      ∃ plan : Plan, plan.Succeeds size command opts base config host ∧
        after = { host with openFds := [.master], trace := host.trace ++ plan.events host } := by
  constructor
  · intro launched
    unfold shell at launched
    obtain ⟨resolved, afterSize, found, rest⟩ := Sys.bind_ok launched
    obtain ⟨resolves, same⟩ := Sys.ofExcept_ok found
    subst afterSize
    obtain ⟨path, afterSearch, detected, rest⟩ := Sys.bind_ok rest
    obtain ⟨searched, rfl, logs⟩ := ShellSearch.detect_records detected
    obtain ⟨cwd, afterChoice, chosen, rest⟩ := Sys.bind_ok rest
    obtain ⟨settled, directory, rfl⟩ := WorkingDirectory.choose_ok_iff.mp chosen
    obtain ⟨current, before, read, rest⟩ := Sys.bind_ok rest
    cases read
    obtain ⟨_, _, ran, last⟩ := Sys.bind_ok rest
    cases last
    obtain ⟨bytes, encoded⟩ := TerminalSize.resolve_encodes resolves
    obtain ⟨⟨opens, sizes, able, closes⟩, rfl⟩ := (spawn_ok_iff encoded).mp ran
    obtain ⟨starts, acquires⟩ := startFault_eq_none.mp able
    let plan : Plan := ⟨resolved, bytes, path, searched, settled, request host.platform
      (argvOf path command opts) cwd (ChildEnv.build (base.getD host.environ) config opts.env)⟩
    have ready : host.faults.start = none := starts
    refine ⟨plan, ?_, ?_⟩
    · exact ⟨resolves, encoded, detected, logs, WorkingDirectory.chosen_recordAll.mp directory,
        argvOf_eq path command opts, ofArgv?_argvOf path command opts, rfl, ⟨rfl, rfl, rfl⟩,
        ⟨rfl, rfl⟩, Terminal.canClaim_iff, opens, sizes, starts,
        acquires ∘ Terminal.canClaim_iff.mp, closes⟩
    · rw [show ((host.recordAll searched).recordAll settled).pid = host.pid from rfl]
      exact plan.launched_eq ready
  · rintro ⟨plan, succeeds, rfl⟩
    have argv := succeeds.argv.trans (argvOf_eq plan.path command opts).symm
    have wanted := request_eq argv succeeds.env succeeds.streams succeeds.apart succeeds.claims
    have able : startFault? ((host.recordAll plan.searched).recordAll plan.settled) = none :=
      startFault_eq_none.mpr ⟨succeeds.starts, succeeds.acquires ∘ succeeds.claims.mpr⟩
    have spawned : (spawn (argvOf plan.path command opts) plan.request.cwd
        (ChildEnv.build (base.getD host.environ) config opts.env) plan.size).run
          ((host.recordAll plan.searched).recordAll plan.settled) =
        .ok () (((((host.recordAll plan.searched).recordAll plan.settled).sized plan.encoded).asked
          plan.request).closed .slave) := by
      rw [spawn_ok_iff succeeds.encoded,
        show request ((host.recordAll plan.searched).recordAll plan.settled).platform
          (argvOf plan.path command opts) plan.request.cwd _ = plan.request from wanted]
      exact ⟨⟨succeeds.opens, succeeds.sizes, able, succeeds.closes⟩, rfl⟩
    rw [shell_settled succeeds.resolved succeeds.detected succeeds.directory, EStateM.run_bind,
      spawned, ← plan.launched_eq succeeds.starts, argv]
    rfl

end Launch

end PtyShell
