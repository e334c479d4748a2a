import PtyShell.Proofs.Launch.Target

/-! # Launches with an environment of their own

A launch that is given a base environment takes little else from around it: the search path for a
shell that is known by name only, and the home of the account where the base environment names
none. -/

namespace PtyShell

def Host.elsewhere (environ : Env) (account : Option String) (host : Host) : Host :=
  { host with environ := environ, accountHome := account }

namespace Sys

def onHost {α : Type} (change : Host → Host) :
    EStateM.Result Fault Host α → EStateM.Result Fault Host α
  | .ok value host => .ok value (change host)
  | .error fault host => .error fault (change host)

def failure? {α : Type} : EStateM.Result Fault Host α → Option Fault
  | .ok _ _ => none
  | .error fault _ => some fault

/-- An action goes the same way on a host with another environment and account. -/
def Same {α : Type} (environ : Env) (account : Option String) (host : Host) (action : Sys α) :
    Prop :=
  action.run (host.elsewhere environ account) =
    onHost (Host.elsewhere environ account) (action.run host)

namespace Same

variable {α β : Type} {environ : Env} {account : Option String} {host : Host}

theorem ofExcept (value : Except Fault α) : Same environ account host (Sys.ofExcept value) := by
  unfold Same
  rw [Sys.ofExcept_run, Sys.ofExcept_run]
  cases value <;> rfl

theorem log (level : Level) (logger : Logger) (message : String) :
    Same environ account host (Sys.log level logger message) := rfl

theorem bind {first : Sys α} {next : α → Sys β} (one : Same environ account host first)
    (two : ∀ value after, first.run host = .ok value after →
      Same environ account after (next value)) :
    Same environ account host (first >>= next) := by
  unfold Same at one ⊢
  rw [EStateM.run_bind, EStateM.run_bind, one]
  cases ran : first.run host with
  | error fault after => rfl
  | ok value after => exact two value after ran

/-- What the rest of an action takes from the host has to be the same. -/
theorem get {next : Host → Sys β} (blind : next (host.elsewhere environ account) = next host)
    (rest : Same environ account host (next host)) :
    Same environ account host (MonadState.get >>= next) := by
  unfold Same at rest ⊢
  rw [EStateM.run_bind, EStateM.run_bind, EStateM.run_get, EStateM.run_get]
  simp only [blind]
  exact rest

end Same

end Sys

namespace ShellSearch

/-- Whether the search for a shell comes to a candidate that is a name only. -/
def consults (host : Host) : List String → Bool
  | [] => false
  | name :: names =>
    if Path.hasSeparator name then (resolve host name).isNone && consults host names else true

section Search

variable {environ : Env} {account : Option String} {host : Host} {names : List String}

theorem resolve_separated {name : String} (separated : Path.hasSeparator name = true) :
    resolve (host.elsewhere environ account) name = resolve host name := by
  unfold resolve
  rw [separated, if_pos rfl, if_pos rfl]
  rfl

theorem resolve_samePath (same : environ.get? "PATH" = host.environ.get? "PATH") :
    resolve (host.elsewhere environ account) = resolve host := by
  funext name
  have found : findOnPath (host.elsewhere environ account) name = findOnPath host name := by
    unfold findOnPath
    rw [show (host.elsewhere environ account).environ = environ from rfl, same]
    rfl
  unfold resolve
  rw [found]
  rfl

theorem search_unconsulted (never : consults host names = false) :
    first (host.elsewhere environ account) names = first host names ∧
      records (host.elsewhere environ account) names = records host names := by
  induction names with
  | nil => exact ⟨rfl, rfl⟩
  | cons name names ih =>
      unfold consults at never
      split at never
      · next separated =>
          have here : resolve (host.elsewhere environ account) name = resolve host name :=
            resolve_separated separated
          unfold first records at ih ⊢
          rw [List.findSome?_cons, List.findSome?_cons, List.takeWhile_cons, List.takeWhile_cons,
            here]
          cases found : resolve host name with
          | some path => exact ⟨rfl, rfl⟩
          | none =>
              rw [found] at never
              obtain ⟨paths, refusals⟩ := ih never
              exact ⟨paths, congrArg (_ :: ·) refusals⟩
      · cases never

theorem search_same (account : Option String) (path : consults host names = true →
      environ.get? "PATH" = host.environ.get? "PATH") :
    first (host.elsewhere environ account) names = first host names ∧
      records (host.elsewhere environ account) names = records host names := by
  cases consulted : consults host names with
  | false => exact search_unconsulted consulted
  | true =>
      unfold first records
      rw [resolve_samePath (path consulted)]
      exact ⟨rfl, rfl⟩

theorem detect_same {base : Env} {config : Config}
    (path : consults host (candidates base config) = true →
      environ.get? "PATH" = host.environ.get? "PATH") :
    Sys.Same environ account host (detect (some base) config) := by
  obtain ⟨paths, refusals⟩ := search_same account path
  unfold Sys.Same
  rw [detect_run, detect_run]
  simp only [Option.getD_some, paths, refusals]
  rfl

end Search

end ShellSearch

namespace WorkingDirectory

/-- A launch falls back on the home of the account: it cannot start where it was asked to, and the
base environment names no home. -/
def DrawsOnAccount (base : Env) (cwd : Option String) (host : Host) : Prop :=
  base.getD "HOME" = "" ∧ ∃ reason, objection host cwd = .ok (some reason)

theorem choose_same {environ : Env} {account : Option String} {host : Host} {base : Env}
    {cwd : Option String} (homes : DrawsOnAccount base cwd host →
      accountHome (host.elsewhere environ account) = accountHome host) :
    Sys.Same environ account host (choose (some base) cwd) := by
  unfold choose
  apply Sys.Same.get rfl
  apply Sys.Same.bind (.ofExcept _)
  intro objected after settled
  obtain ⟨found, rfl⟩ := Sys.ofExcept_ok settled
  cases objected with
  | none => rfl
  | some reason =>
      have same : home (after.elsewhere environ account) (some base) = home after (some base) := by
        unfold home
        simp only [Option.getD_some]
        by_cases unnamed : base.getD "HOME" = ""
        · rw [if_pos unnamed, if_pos unnamed, homes ⟨unnamed, reason, found⟩]
        · rw [if_neg unnamed, if_neg unnamed]
      apply Sys.Same.get
      · rw [same]
      · exact Sys.Same.bind (.ofExcept _) fun directory later _ => rfl

theorem Chosen.account {host : Host} {base : Env} {cwd directory : Option String}
    {records : List Event} (chosen : Chosen host (some base) cwd directory records)
    (draws : DrawsOnAccount base cwd host) :
    ∃ home, directory = some home ∧ accountHome host = .ok home := by
  obtain ⟨unnamed, reason, refused⟩ := draws
  cases chosen with
  | requested accepted => cases accepted.symm.trans refused
  | home again found =>
      unfold WorkingDirectory.home at found
      exact ⟨_, rfl, (if_pos unnamed).symm.trans found⟩

end WorkingDirectory

namespace Launch

open WorkingDirectory

section Spawn

variable {environ : Env} {account : Option String} {host : Host} {size : TerminalSize}
  {bytes : List UInt8}

theorem closeFault?_elsewhere (fd : Fd) :
    (host.elsewhere environ account).closeFault? fd = host.closeFault? fd := by
  cases fd <;> rfl

theorem closeFault?_of_faults {other : Host} (faults : other.faults = host.faults) (fd : Fd) :
    other.closeFault? fd = host.closeFault? fd := by
  cases fd <;> simp only [Host.closeFault?, faults]

theorem openSized_same (encoded : Terminal.encode size.rows size.cols = .ok bytes) :
    Sys.Same environ account host (openSized size) := by
  unfold Sys.Same
  rw [openSized_run encoded, openSized_run encoded]
  rw [show (host.elsewhere environ account).faults = host.faults from rfl,
    closeFault?_elsewhere, closeFault?_elsewhere]
  cases host.faults.openPty with
  | some fault => rfl
  | none =>
      cases host.faults.resize with
      | none => rfl
      | some fault => cases host.closeFault? .master <;> rfl

theorem startOn_same (argv : List String) (cwd : Option String) (env : Env) :
    Sys.Same environ account host (startOn argv cwd env) := by
  unfold Sys.Same
  rw [startOn_run, startOn_run, closeFault?_elsewhere, closeFault?_elsewhere]
  rw [show (host.elsewhere environ account).platform = host.platform from rfl,
    show startFault? (host.elsewhere environ account) = startFault? host from rfl]
  cases startFault? host with
  | none => cases host.closeFault? .slave <;> rfl
  | some fault =>
      cases launcher : fault.isSystem || fault.isChildProcess <;> simp only [launcher] <;> rfl

theorem spawn_same (encoded : Terminal.encode size.rows size.cols = .ok bytes)
    (argv : List String) (cwd : Option String) (env : Env) :
    Sys.Same environ account host (spawn argv cwd env size) :=
  .bind (openSized_same encoded) fun _ _ _ => startOn_same argv cwd env

theorem startOn_failure {other : Host} (faults : other.faults = host.faults)
    (platform : other.platform = host.platform) (argv : List String)
    (cwd directory : Option String) (env : Env) :
    Sys.failure? ((startOn argv directory env).run other) =
      Sys.failure? ((startOn argv cwd env).run host) := by
  have able : startFault? other = startFault? host := by
    unfold startFault?
    rw [faults, platform]
  rw [startOn_run, startOn_run, able, closeFault?_of_faults faults, closeFault?_of_faults faults]
  cases startFault? host with
  | none => cases host.closeFault? .slave <;> rfl
  | some fault =>
      cases launcher : fault.isSystem || fault.isChildProcess <;> simp only [launcher] <;> rfl

theorem spawn_failure (encoded : Terminal.encode size.rows size.cols = .ok bytes) {other : Host}
    (faults : other.faults = host.faults) (platform : other.platform = host.platform)
    (argv : List String) (cwd directory : Option String) (env : Env) :
    Sys.failure? ((spawn argv directory env size).run other) =
      Sys.failure? ((spawn argv cwd env size).run host) := by
  unfold spawn
  rw [EStateM.run_bind, EStateM.run_bind, openSized_run encoded, openSized_run encoded, faults,
    closeFault?_of_faults faults, closeFault?_of_faults faults]
  cases host.faults.openPty with
  | some fault => rfl
  | none =>
      cases host.faults.resize with
      | some fault => cases host.closeFault? .master <;> rfl
      | none =>
          have sized : (other.sized bytes).faults = (host.sized bytes).faults := faults
          exact startOn_failure sized platform argv cwd directory env

end Spawn

/-- How the launch of a shell that is given a base environment goes on a host and on one with
another environment of the program and another home of the account. -/
structure Hermetic (size : TerminalSize) (text : Option String) (opts : ShellOptions) (base : Env)
    (config : Config) (environ : Env) (account : Option String) (host : Host) : Prop where
  /-- It goes the same way, unless it falls back on homes that differ. -/
  same : (DrawsOnAccount base opts.cwd host →
      accountHome (host.elsewhere environ account) = accountHome host) →
    Sys.Same environ account host (shell size text opts (some base) config)
  /-- Where it does, it ends the same way, and the processes that are asked for differ in their
  directories at most. -/
  drawn : DrawsOnAccount base opts.cwd host → ∀ one two, accountHome host = .ok one →
    accountHome (host.elsewhere environ account) = .ok two →
      Sys.failure? ((shell size text opts (some base) config).run
          (host.elsewhere environ account)) =
          Sys.failure? ((shell size text opts (some base) config).run host) ∧
        ∃ common : StartRequest,
          (∀ after, (Target.shell text opts).Reaches size (some base) config host after →
            ∃ setup, host.Gains after setup ∧
              ∀ wanted, .start wanted ∈ setup → wanted = { common with cwd := some one }) ∧
          ∀ after, (Target.shell text opts).Reaches size (some base) config
              (host.elsewhere environ account) after →
            ∃ setup, (host.elsewhere environ account).Gains after setup ∧
              ∀ wanted, .start wanted ∈ setup → wanted = { common with cwd := some two }

section Shell

variable {environ : Env} {account : Option String} {host : Host} {base : Env} {config : Config}
  {opts : ShellOptions}

theorem shell_same (path : ShellSearch.consults host (ShellSearch.candidates base config) = true →
      environ.get? "PATH" = host.environ.get? "PATH")
    (size : TerminalSize) (text : Option String)
    (homes : DrawsOnAccount base opts.cwd host →
      accountHome (host.elsewhere environ account) = accountHome host) :
    Sys.Same environ account host (shell size text opts (some base) config) := by
  unfold shell
  apply Sys.Same.bind (.ofExcept _)
  intro resolved after settled
  obtain ⟨resolves, rfl⟩ := Sys.ofExcept_ok settled
  obtain ⟨bytes, encoded⟩ := TerminalSize.resolve_encodes resolves
  apply Sys.Same.bind (ShellSearch.detect_same path)
  intro found searched detected
  obtain ⟨records, rfl, _⟩ := ShellSearch.detect_records detected
  have choice : Sys.Same environ account (after.recordAll records) (choose (some base) opts.cwd) :=
    choose_same homes
  apply Sys.Same.bind choice
  intro cwd chosen _
  apply Sys.Same.get rfl
  exact .bind (spawn_same encoded _ _ _) fun _ _ _ => .log _ _ _

theorem shell_drawn {size resolved : TerminalSize} (resolves : size.resolve config.defaultSize =
      .ok resolved) {found home : String} {searched : List Event}
    (detected : (ShellSearch.detect (some base) config).run host =
      .ok found (host.recordAll searched))
    (draws : DrawsOnAccount base opts.cwd host) (homed : accountHome host = .ok home)
    (text : Option String) :
    ∃ settled, Sys.failure? ((shell size text opts (some base) config).run host) =
      Sys.failure? ((spawn (argvOf found text opts) (some home)
        (ChildEnv.build base config opts.env) resolved).run
          ((host.recordAll searched).recordAll settled)) := by
  obtain ⟨unnamed, reason, refused⟩ := draws
  have chosen : Chosen host (some base) opts.cwd (some home)
      [.log .debug .launcher (fallbackMessage home reason)] :=
    .home refused ((if_pos unnamed).trans homed)
  refine ⟨[.log .debug .launcher (fallbackMessage home reason)], ?_⟩
  rw [shell_settled resolves detected chosen, EStateM.run_bind]
  simp only [Option.getD_some]
  cases (spawn (argvOf found text opts) (some home) (ChildEnv.build base config opts.env)
    resolved).run _ <;> rfl

theorem drawn_asks {size : TerminalSize} {text : Option String} {after : Host} {home : String}
    (reached : (Target.shell text opts).Reaches size (some base) config host after)
    (draws : DrawsOnAccount base opts.cwd host) (homed : accountHome host = .ok home) :
    ∃ setup, host.Gains after setup ∧ ∀ wanted, .start wanted ∈ setup →
      wanted = (Target.shell text opts).request (some base) config host (some home) := by
  obtain ⟨setup, gains, asks⟩ := reached.asks
  refine ⟨setup, gains, ?_⟩
  intro wanted member
  obtain ⟨cwd, ⟨records, chosen⟩, rfl⟩ := asks wanted member
  obtain ⟨directory, rfl, found⟩ := chosen.account draws
  cases found.symm.trans homed
  rfl

/-- The launch of a shell depends on nothing around a base environment but the search path, if it
comes to a name only, and the home of the account, if it falls back on that. -/
theorem shell_hermetic
    (path : ShellSearch.consults host (ShellSearch.candidates base config) = true →
      environ.get? "PATH" = host.environ.get? "PATH")
    (size : TerminalSize) (text : Option String) (opts : ShellOptions) :
    Hermetic size text opts base config environ account host where
  same := shell_same path size text
  drawn := by
    intro draws one two homed moved
    obtain ⟨paths, refusals⟩ := ShellSearch.search_same account path
    have away : DrawsOnAccount base opts.cwd (host.elsewhere environ account) := draws
    constructor
    · cases resolves : size.resolve config.defaultSize with
      | error fault =>
          rw [shell_refused resolves, shell_refused resolves]
          rfl
      | ok resolved =>
          obtain ⟨bytes, encoded⟩ := TerminalSize.resolve_encodes resolves
          obtain ⟨early, here⟩ := shell_drawn resolves (ShellSearch.detect_run (some base) config
            host) draws homed text
          obtain ⟨late, there⟩ := shell_drawn resolves (ShellSearch.detect_run (some base) config
            (host.elsewhere environ account)) away moved text
          rw [here, there]
          simp only [Option.getD_some, paths]
          exact spawn_failure encoded (by rfl) (by rfl) _ _ _ _
    · refine ⟨(Target.shell text opts).request (some base) config host none, ?_, ?_⟩
      · intro after reached
        exact drawn_asks reached draws homed
      · intro after reached
        obtain ⟨setup, gains, asks⟩ := drawn_asks reached away moved
        refine ⟨setup, gains, ?_⟩
        intro wanted member
        rw [asks wanted member]
        unfold Target.request Target.argv
        simp only [Option.getD_some, paths]
        rfl

end Shell

def furnished : Host :=
  { Host.plain with
    environ := Env.empty.set "PATH" "/opt"
    accountHome := some "/x"
    files := FileTree.system ⟨[("/opt", .ok .directory), ("/opt/sh", .ok (.file true [] none)),
      ("/bin", .ok .directory), ("/bin/sh", .ok (.file true [] none))]⟩ }

def shelled : Env := Env.empty.set "SHELL" "/bin/sh"

theorem shell_hermetic_shelled :
    (ShellSearch.consults furnished (ShellSearch.candidates (shelled.set "HOME" "/h")
        Config.default) = true →
      (Env.empty.set "PATH" "/bin").get? "PATH" = furnished.environ.get? "PATH") ∧
      Hermetic ⟨24, 80⟩ (some "true") ShellOptions.default (shelled.set "HOME" "/h") Config.default
        (Env.empty.set "PATH" "/bin") none furnished ∧
        ¬DrawsOnAccount (shelled.set "HOME" "/h") none furnished ∧
          Sys.failure? ((shell ⟨24, 80⟩ (some "true") ShellOptions.default
            (some (shelled.set "HOME" "/h")) Config.default).run furnished) = none := by
  have path : ShellSearch.consults furnished (ShellSearch.candidates (shelled.set "HOME" "/h")
      Config.default) = true →
        (Env.empty.set "PATH" "/bin").get? "PATH" = furnished.environ.get? "PATH" := by
    decide +kernel
  refine ⟨path, shell_hermetic path _ _ _, ?_, rfl⟩
  rintro ⟨unnamed, _⟩
  exact absurd unnamed (by decide)

def tried (base : Env) (host : Host) : List StartRequest :=
  ((shell ⟨24, 80⟩ (some "true") ShellOptions.default (some base) Config.default).leaves
    host).trace.filterMap fun event =>
      match event with
      | .start request => some request
      | _ => none

/-- A base environment that names no home leaves the directory to the account, and one that names no
path of a shell leaves the shell to the search path of the program. -/
theorem shell_not_hermetic :
    ((tried shelled furnished).map StartRequest.cwd = [some "/x"] ∧
      (tried shelled (furnished.elsewhere furnished.environ (some "/h"))).map StartRequest.cwd =
        [some "/h"]) ∧
      (tried (Env.empty.set "HOME" "/h") furnished).map StartRequest.argv =
          [["/opt/sh", "-c", "true"]] ∧
        (tried (Env.empty.set "HOME" "/h")
          (furnished.elsewhere (Env.empty.set "PATH" "/bin") (some "/x"))).map StartRequest.argv =
            [["/bin/sh", "-c", "true"]] := by
  refine ⟨⟨?_, ?_⟩, ?_, ?_⟩ <;> decide +kernel

end Launch

end PtyShell
