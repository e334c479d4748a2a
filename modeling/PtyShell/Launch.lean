import PtyShell.ChildEnv
import PtyShell.Commands
import PtyShell.ShellSearch
import PtyShell.WorkingDirectory

/-!
# Launching

A process is started on a new pseudo-terminal in three stages: opening the terminal, giving it its
size, starting the process. A failing stage is reported as a fault of its own. The slave end is
closed here once the start was attempted, the master end when a stage has failed.
-/

namespace PtyShell.Launch

def openFault (fault : Fault) : Fault :=
  if fault.isSystem then .ptyOpen fault true else fault

def sizeFault (size : TerminalSize) (fault : Fault) : Fault :=
  if fault.isSystem || fault.isEncoding then .ptySize size.rows size.cols fault true else fault

def openSized (size : TerminalSize) : Sys Unit := do
  tryCatch Sys.openPty fun fault => throw (openFault fault)
  tryCatch (Sys.resize (some .master) size.rows size.cols) fun fault => do
    Sys.close .master
    Sys.close .slave
    throw (sizeFault size fault)

def request (platform : String) (argv : List String) (cwd : Option String) (env : Env) :
    StartRequest where
  argv := argv
  cwd := cwd
  env := env
  stdin := .slave
  stdout := .slave
  stderr := .slave
  closeOthers := true
  newSession := true
  claimTerminal := Terminal.canClaim platform

/-- Reports a refused start, and closes the master end; other faults pass unchanged. -/
def refuseStart (argv : List String) (fault : Fault) : Sys Unit :=
  if fault.isSystem || fault.isChildProcess then do
    Sys.close .master
    throw (Fault.wrap (fun reason => .processStart argv reason true) fault)
  else throw fault

def startOn (argv : List String) (cwd : Option String) (env : Env) : Sys Unit := do
  let platform := (← get).platform
  tryFinally (tryCatch (Sys.start (request platform argv cwd env)) (refuseStart argv))
    (Sys.close .slave)

def spawn (argv : List String) (cwd : Option String) (env : Env) (size : TerminalSize) :
    Sys Unit := do
  openSized size
  startOn argv cwd env

def argvOf (shell : String) (command : Option String) (opts : ShellOptions) : List String :=
  let command := command.getD ""
  [shell] ++ (if opts.login then ["-l"] else []) ++ (if opts.interactive then ["-i"] else []) ++
    (if command = "" then [] else ["-c", command])

def startedMessage (pid : Nat) (size : TerminalSize) (cwd : Option String) (argv : List String) :
    String :=
  "Shell process started: pid=" ++ toString pid ++ " size=" ++ toString size.rows ++ "x" ++
    toString size.cols ++ " cwd=" ++ cwd.getD "None" ++ " cmd=" ++ " ".intercalate argv

def shell (size : TerminalSize) (command : Option String) (opts : ShellOptions) (base : Option Env)
    (config : Config) : Sys Unit := do
  let size ← Sys.ofExcept (size.resolve config.defaultSize)
  let path ← ShellSearch.detect base config
  let argv := argvOf path command opts
  let cwd ← WorkingDirectory.choose base opts.cwd
  let host ← get
  let env := ChildEnv.build (base.getD host.environ) config opts.env
  spawn argv cwd env size
  Sys.log .info .launcher (startedMessage host.pid size cwd argv)

def command (command : Command) (size : TerminalSize) (base : Option Env) (config : Config) :
    Sys Unit := do
  let size ← Sys.ofExcept (size.resolve config.defaultSize)
  let env := ChildEnv.build (base.getD (← get).environ) config command.env
  spawn command.argv.words command.cwd env size

end PtyShell.Launch
