import PtyShell.Drain
import PtyShell.Launch
import PtyShell.Termination

/-!
# Running a command to its end

The runner starts a command on a new terminal and waits for it while a second thread drains the
terminal. It closes the master end only after both have finished, and gives the output of a command
that succeeded.
-/

namespace PtyShell

inductive Verdict
  | returned (code : Int)
  | failed (fault : Fault)
  deriving DecidableEq, Repr

inductive RunOutcome
  | output (bytes : List UInt8)
  | fault (fault : Fault)
  deriving DecidableEq, Repr

/-- Where the waiting thread stands. After a failing wait it kills the command and waits again. -/
inductive RunPoint
  | enteringWait
  | awaitingExit
  | killing (cause : Fault)
  | enteringSecondWait (cause : Fault)
  | awaitingSecondExit (cause : Fault)
  | joining (verdict : Verdict)
  | closing (verdict : Verdict)
  | deciding (code : Int)
  | finished (outcome : RunOutcome)
  deriving DecidableEq, Repr

structure Run where
  host : Host
  main : RunPoint
  drain : DrainPoint
  captured : List UInt8

inductive RunThread
  | main
  | drain
  deriving DecidableEq, Repr

inductive RunMove
  | step (thread : RunThread)
  | exit (code : Int)
  deriving DecidableEq, Repr

namespace Run

def runningMessage (pid : Nat) (argv : List String) : String :=
  "Running pid=" ++ toString pid ++ " in pty: " ++ " ".intercalate argv

def failedMessage (pid : Nat) (fault : Fault) : String :=
  "pid=" ++ toString pid ++ " failed: " ++ fault.message

def ofHost (argv : List String) (host : Host) : Run :=
  ⟨host.record (.log .debug .runner (runningMessage host.pid argv)), .enteringWait, .reading, []⟩

def goOn (run : Run) (host : Host) (point : RunPoint) : Option Run :=
  some { run with host := host, main := point }

def stepMain (run : Run) : Option Run :=
  match run.main with
  | .enteringWait =>
    match run.host.enterWait with
    | (none, host) => run.goOn host .awaitingExit
    | (some fault, host) => run.goOn host (.killing fault)
  | .awaitingExit =>
    match run.host.returncode with
    | none => none
    | some code => run.goOn run.host (.joining (.returned code))
  | .killing cause =>
    match Sys.kill.run run.host with
    | .ok _ host => run.goOn host (.enteringSecondWait cause)
    | .error fault host => run.goOn host (.joining (.failed fault))
  | .enteringSecondWait cause =>
    match run.host.enterWait with
    | (none, host) => run.goOn host (.awaitingSecondExit cause)
    | (some fault, host) => run.goOn host (.joining (.failed fault))
  | .awaitingSecondExit cause =>
    match run.host.returncode with
    | none => none
    | some _ => run.goOn run.host (.joining (.failed cause))
  | .joining verdict =>
    match run.drain with
    | .ended => run.goOn run.host (.closing verdict)
    | _ => none
  | .closing verdict =>
    match (Sys.close .master).run run.host, verdict with
    | .error fault host, _ => run.goOn host (.finished (.fault fault))
    | .ok _ host, .failed fault => run.goOn host (.finished (.fault fault))
    | .ok _ host, .returned code => run.goOn host (.deciding code)
  | .deciding code =>
    match exitFault? code with
    | none => run.goOn run.host (.finished (.output run.captured))
    | some fault =>
      run.goOn (run.host.record (.log .debug .runner (failedMessage run.host.pid fault)))
        (.finished (.fault fault))
  | .finished _ => none

def stepDrain (run : Run) : Option Run :=
  (Drain.step (some .master) run.host run.drain).map fun progress =>
    { run with
      host := progress.host
      drain := progress.point
      captured := run.captured ++ progress.bytes }

def step (run : Run) : RunThread → Option Run
  | .main => run.stepMain
  | .drain => run.stepDrain

def move (run : Run) : RunMove → Run
  | .step thread => (run.step thread).getD run
  | .exit code => { run with host := run.host.exit code }

def play (run : Run) (moves : List RunMove) : Run :=
  moves.foldl move run

/-- Lets the waiting thread go on when it can, and else the draining one. -/
def complete : Nat → Run → Run
  | 0, run => run
  | fuel + 1, run =>
    match run.step .main with
    | some run => complete fuel run
    | none =>
      match run.step .drain with
      | some run => complete fuel run
      | none => run

def bound (run : Run) : Nat :=
  Drain.bound run.host + 12

def outcome? (run : Run) : Option RunOutcome :=
  match run.main with
  | .finished outcome => some outcome
  | _ => none

end Run

namespace Runner

/-- Runs a command; `none` means that the run never ends. -/
def run (command : Command) (size : TerminalSize) (base : Option Env) (config : Config)
    (host : Host) : Option RunOutcome × Host :=
  match (Launch.command command size base config).run host with
  | .error fault host => (some (.fault fault), host)
  | .ok _ host =>
    let start := Run.ofHost command.argv.words host
    let run := Run.complete start.bound start
    (run.outcome?, run.host)

end Runner

end PtyShell
