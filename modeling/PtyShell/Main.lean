import PtyShell.Cli.Program
import PtyShell.Description

namespace PtyShell

def usageText : String :=
  "Usage: shellexec run [--rows N] [--cols N] [--cwd DIR] [-c FILE] [-v] PROGRAM [ARGUMENT]...\n" ++
  "       shellexec exec [--rows N] [--cols N] [--cwd DIR] [-c FILE] [-v] [-l] [-i] [-t SECONDS]" ++
  " [COMMAND]"

def readHost : IO Host := do
  let text ← (← IO.getStdin).readToEnd
  match Json.parse text.toList with
  | .ok value => return Description.host value "linux"
  | .error _ => throw (IO.userError "the standard input describes no host")

def conclude (verbose : Bool) (finish : Cli.Finish) : IO UInt32 := do
  let stdout ← IO.getStdout
  stdout.write (ByteArray.mk finish.stdout.toArray)
  stdout.flush
  IO.eprint (Cli.stderr verbose finish.host)
  match finish.ending with
  | some (.exited status) => return UInt32.ofNat (status % 256).toNat
  | some (.uncaught fault) =>
    IO.eprintln fault.message
    return 1
  | none => throw (IO.userError "the program never ends on this host")

end PtyShell

def main (arguments : List String) : IO UInt32 := do
  match PtyShell.Cli.Invocation.ofWords arguments with
  | .usage =>
    IO.eprintln PtyShell.usageText
    return 2
  | .help =>
    IO.println PtyShell.usageText
    return 0
  | .run options =>
    let host ← PtyShell.readHost
    PtyShell.conclude options.common.verbose (PtyShell.Cli.run options host)
  | .exec options =>
    let host ← PtyShell.readHost
    PtyShell.conclude options.common.verbose (PtyShell.Cli.exec options host)
