import PtyShell.Cli.Exec
import PtyShell.Cli.Options
import PtyShell.Config.Load
import PtyShell.Runner

namespace PtyShell.Cli

/-- What a command leaves behind: how it ended, unless it never does, what it wrote to its standard
output, and the host. -/
structure Finish where
  ending : Option Ending
  stdout : List UInt8
  host : Host

def errorMessage (fault : Fault) : String :=
  "Error: " ++ fault.message

def failureStatus (fault : Fault) : Int :=
  match fault with
  | .exited _ => if 0 < fault.exitCode then fault.exitCode else 1
  | _ => 1

def uncaught (fault : Fault) (host : Host) : Finish :=
  ⟨some (.uncaught fault), [], host⟩

def failed (status : Int) (fault : Fault) (host : Host) : Finish :=
  if fault.isPackage then
    ⟨some (.exited status), [], host.record (.notice (errorMessage fault))⟩
  else uncaught fault host

def runCommand (services : Config.Services) (options : RunOptions) (host : Host) : Finish :=
  match (Config.loadWith services options.common.config).run host with
  | .error fault host => uncaught fault host
  | .ok config host =>
    match Runner.run options.prepared options.common.size none config host with
    | (none, host) => ⟨none, [], host⟩
    | (some (.output bytes), host) => ⟨some (.exited 0), bytes, host⟩
    | (some (.fault fault), host) => failed (failureStatus fault) fault host

def followShell (services : Config.Services) (options : ExecOptions) (host : Host) : Finish :=
  match (Config.loadWith services options.common.config).run host with
  | .error fault host => uncaught fault host
  | .ok config host =>
    let launch := Launch.shell options.common.size (some options.command) options.shellOptions none
      config
    match launch.run host with
    | .error fault host => failed 1 fault host
    | .ok _ host =>
      let start := Exec.ofHandle (Handle.ofHost host) options.timeout
      let exec := Exec.complete start.bound start
      ⟨exec.ending?, exec.stdout, exec.handle.host⟩

end PtyShell.Cli
