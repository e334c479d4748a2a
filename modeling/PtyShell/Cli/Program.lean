import PtyShell.Cli.Arguments
import PtyShell.Cli.Command
import PtyShell.Config.Standard
import PtyShell.Text.Styling

namespace PtyShell.Cli

def interruptedStatus : Int := 130

def brokenPipe : Int := 32

/-- An interrupt and a broken pipe end the program in silence. -/
def Ending.handled : Ending → Ending
  | .uncaught (.interrupt _) => .exited interruptedStatus
  | .uncaught (.system code text path) =>
    if code = brokenPipe then .exited 1 else .uncaught (.system code text path)
  | ending => ending

def Finish.handled (finish : Finish) : Finish :=
  { finish with ending := finish.ending.map Ending.handled }

def run (options : RunOptions) (host : Host) : Finish :=
  (runCommand .standard options host).handled

def exec (options : ExecOptions) (host : Host) : Finish :=
  (followShell .standard options host).handled

def isShown (verbose : Bool) : Level → Bool
  | .debug | .info => verbose
  | .warning => true

def errorLine? (verbose : Bool) : Event → Option String
  | .log level logger message =>
    if isShown verbose level then
      some ("[" ++ level.text ++ "] " ++ logger.name ++ ": " ++ message ++ "\n")
    else none
  | .notice text => some (Text.unstyled text ++ "\n")
  | _ => none

def stderr (verbose : Bool) (host : Host) : String :=
  String.join (host.trace.filterMap (errorLine? verbose))

end PtyShell.Cli
