import PtyShell.Host
import PtyShell.Termination

/-!
# Handles

A handle owns a started process and the master end of its terminal. Its result is published once,
by whoever comes first. Closing kills the process at once and starts a reaper, which waits for the
process, publishes and only then gives up the master end.

Several threads may use a handle. Each is a control point, and one step carries it across one access
to what they share. A lock protects the result, the reaper and the master end.
-/

namespace PtyShell

structure Handle where
  host : Host
  /-- The master end, none once it was given up. -/
  master : Option Fd
  result : Option Termination
  done : Bool
  hasReaper : Bool
  locked : Bool

def Handle.ofHost (host : Host) : Handle :=
  ⟨host, some .master, none, false, false, false⟩

/-- On whose account a report is published. -/
inductive Errand
  /-- A caller's own. -/
  | publish
  /-- A caller's that waited for the process. -/
  | reap
  /-- The reaper's. -/
  | reaper
  deriving DecidableEq, Repr

inductive Observer
  | wait
  | reap
  deriving DecidableEq, Repr

inductive Thread
  | killing
  | killed (failure : Option Fault)
  | seekingReaper
  | checkingReaper
  | startingReaper
  | leavingReaper
  | enteringWait (errand : Errand)
  | awaitingExit (errand : Errand)
  | claimingResult (errand : Errand) (report : Option Report)
  | checkingResult (errand : Errand) (report : Option Report)
  | recordingResult (errand : Errand) (report : Option Report)
  | signalling (errand : Errand) (report : Option Report)
  | leavingResult (errand : Errand) (report : Option Report) (won : Bool)
  | loggingResult (errand : Errand) (report : Option Report)
  | awaitingDone (observer : Observer)
  | readingResult (observer : Observer)
  | polling
  | pollingResult
  | claimingMaster
  | takingMaster
  | clearingMaster (fd : Option Fd)
  | leavingMaster (fd : Option Fd)
  | closingMaster (fd : Fd)
  deriving DecidableEq, Repr

inductive Note
  | closed
  | published (errand : Errand) (report : Option Report) (won : Bool)
  | waited (observer : Observer) (result : Termination)
  | polled (done : Bool) (result : Option Termination)
  | released
  | failed (fault : Fault)
  deriving DecidableEq, Repr

/-- The handle after a step, where the thread goes on unless it has ended, a thread it started, and
what it made known. -/
structure Progress where
  handle : Handle
  next : Option Thread
  started : Option Thread
  note : Option Note

inductive Call
  | close
  | publish (report : Option Report)
  | reap
  | wait
  | poll
  | release
  deriving DecidableEq, Repr

def Call.thread : Call → Thread
  | .close => .killing
  | .publish report => .claimingResult .publish report
  | .reap => .enteringWait .reap
  | .wait => .awaitingDone .wait
  | .poll => .polling
  | .release => .claimingMaster

namespace Handle

def goOn (handle : Handle) (next : Thread) : Option Progress :=
  some ⟨handle, some next, none, none⟩

def finish (handle : Handle) (note : Note) : Option Progress :=
  some ⟨handle, none, none, some note⟩

def record (handle : Handle) (event : Event) : Handle :=
  { handle with host := handle.host.record event }

def log (handle : Handle) (level : Level) (message : String) : Handle :=
  handle.record (.log level .launcher message)

def lock (handle : Handle) : Handle :=
  { handle with locked := true }

def unlock (handle : Handle) : Handle :=
  { handle with locked := false }

def acquire (handle : Handle) (next : Thread) : Option Progress :=
  if handle.locked then none else handle.lock.goOn next

def processText (pid : Nat) : String :=
  "pid=" ++ toString pid

def killedMessage (pid : Nat) : String :=
  "Killed shell process " ++ processText pid

def killFailedMessage (pid : Nat) (fault : Fault) : String :=
  "Kill of " ++ processText pid ++ " failed: " ++ fault.message

def doneMessage (pid : Nat) (result : Termination) : String :=
  "Shell process " ++ processText pid ++ " done: exit_code=" ++ toString result.exitCode

/-- Kills the process; only a failing system call is taken for a process that is gone. -/
def stepKilling (handle : Handle) : Option Progress :=
  match Sys.kill.run handle.host with
  | .ok _ host => { handle with host := host }.goOn (.killed none)
  | .error fault host =>
    if fault.isSystem then { handle with host := host }.goOn (.killed (some fault))
    else { handle with host := host }.finish (.failed fault)

def stepKilled (handle : Handle) : Option Fault → Option Progress
  | none => (handle.log .info (killedMessage handle.host.pid)).goOn .seekingReaper
  | some fault => (handle.log .debug (killFailedMessage handle.host.pid fault)).goOn .seekingReaper

def stepCheckingReaper (handle : Handle) : Option Progress :=
  if handle.hasReaper then handle.goOn .leavingReaper else handle.goOn .startingReaper

def stepStartingReaper (handle : Handle) : Option Progress :=
  some ⟨{ handle with hasReaper := true }, some .leavingReaper, some (.enteringWait .reaper), none⟩

/-- Calls wait; a failing system call is what gets published, any other fault ends the thread. -/
def stepEnteringWait (handle : Handle) (errand : Errand) : Option Progress :=
  let (fault, host) := handle.host.enterWait
  let handle := { handle with host := host }
  match fault with
  | none => handle.goOn (.awaitingExit errand)
  | some fault =>
    if fault.isSystem then handle.goOn (.claimingResult errand (some (.fault fault)))
    else handle.finish (.failed fault)

def stepAwaitingExit (handle : Handle) (errand : Errand) : Option Progress :=
  match handle.host.returncode with
  | none => none
  | some code => handle.goOn (.claimingResult errand ((exitFault? code).map .fault))

def stepCheckingResult (handle : Handle) (errand : Errand) (report : Option Report) :
    Option Progress :=
  if handle.result.isSome then handle.goOn (.leavingResult errand report false)
  else handle.goOn (.recordingResult errand report)

def afterPublication (handle : Handle) (errand : Errand) (report : Option Report) (won : Bool) :
    Progress where
  handle := handle
  next :=
    match errand with
    | .publish => none
    | .reap => some (.awaitingDone .reap)
    | .reaper => some .claimingMaster
  started := none
  note := some (.published errand report won)

def stepLeavingResult (handle : Handle) (errand : Errand) (report : Option Report) (won : Bool) :
    Option Progress :=
  if won then handle.unlock.goOn (.loggingResult errand report)
  else some (handle.unlock.afterPublication errand report false)

def stepLoggingResult (handle : Handle) (errand : Errand) (report : Option Report) :
    Option Progress :=
  match handle.result with
  | none => handle.finish (.failed .missingResult)
  | some result =>
    some
      ((handle.log .debug (doneMessage handle.host.pid result)).afterPublication errand report true)

def stepReadingResult (handle : Handle) (observer : Observer) : Option Progress :=
  match handle.result with
  | none => handle.finish (.failed .missingResult)
  | some result => handle.finish (.waited observer result)

def stepClosingMaster (handle : Handle) (fd : Fd) : Option Progress :=
  match (Sys.close fd).run handle.host with
  | .ok _ host => { handle with host := host }.finish .released
  | .error fault host =>
    { handle with host := host }.finish (if fault.isSystem then .released else .failed fault)

def step (handle : Handle) : Thread → Option Progress
  | .killing => handle.stepKilling
  | .killed failure => handle.stepKilled failure
  | .seekingReaper => handle.acquire .checkingReaper
  | .checkingReaper => handle.stepCheckingReaper
  | .startingReaper => handle.stepStartingReaper
  | .leavingReaper => handle.unlock.finish .closed
  | .enteringWait errand => handle.stepEnteringWait errand
  | .awaitingExit errand => handle.stepAwaitingExit errand
  | .claimingResult errand report => handle.acquire (.checkingResult errand report)
  | .checkingResult errand report => handle.stepCheckingResult errand report
  | .recordingResult errand report =>
    { handle with result := some ⟨report⟩ }.goOn (.signalling errand report)
  | .signalling errand report =>
    { handle with done := true }.goOn (.leavingResult errand report true)
  | .leavingResult errand report won => handle.stepLeavingResult errand report won
  | .loggingResult errand report => handle.stepLoggingResult errand report
  | .awaitingDone observer => if handle.done then handle.goOn (.readingResult observer) else none
  | .readingResult observer => handle.stepReadingResult observer
  | .polling =>
    if handle.done then handle.goOn .pollingResult else handle.finish (.polled false none)
  | .pollingResult => handle.finish (.polled true handle.result)
  | .claimingMaster => handle.acquire .takingMaster
  | .takingMaster => handle.goOn (.clearingMaster handle.master)
  | .clearingMaster fd => { handle with master := none }.goOn (.leavingMaster fd)
  | .leavingMaster none => handle.unlock.finish .released
  | .leavingMaster (some fd) => handle.unlock.goOn (.closingMaster fd)
  | .closingMaster fd => handle.stepClosingMaster fd

def shown (handle : Handle) : String :=
  "ShellProc(pid=" ++ toString handle.host.pid ++ ", done=" ++
    (if handle.done then "True" else "False") ++ ")"

end Handle

end PtyShell
