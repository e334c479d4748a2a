import PtyShell.Drain
import PtyShell.Handle.Session
import PtyShell.Number.FloatText

/-!
# Following a shell

Once a shell is started, a pump forwards its output while another thread reaps it. The main thread
waits for the reaping thread, for a limited time if a limit is given, then closes the handle and
announces the exit code. When the limit expires the shell is killed first.
-/

namespace PtyShell.Cli

inductive Ending
  | exited (status : Int)
  | uncaught (fault : Fault)
  deriving DecidableEq, Repr

/-- Where the main thread stands. A result that is known already is carried along. -/
inductive ExecPoint
  | starting
  | joining
  | checking
  | closing (thread : Thread) (known : Option Termination)
  | waiting (thread : Thread) (timedOut : Bool)
  | joiningPump (known : Option Termination)
  | announcing (result : Termination)
  | finished (ending : Ending)
  deriving DecidableEq, Repr

structure Exec where
  handle : Handle
  timeout : Option Binary64
  main : ExecPoint
  pump : DrainPoint
  /-- The descriptor that the pump was given. -/
  source : Option Fd
  /-- The reaping thread, none once it has ended. -/
  reap : Option Thread
  /-- The reapers that closing has started. -/
  reapers : List (Option Thread)
  stdout : List UInt8
  /-- Whether the time limit has expired. -/
  expired : Bool

inductive ExecThread
  | main
  | pump
  | reap
  | reaper (place : Nat)
  deriving DecidableEq, Repr

/-- What may happen next: a thread takes its next step, the time limit runs out, or the process
exits by itself. -/
inductive ExecMove
  | step (thread : ExecThread)
  | expire
  | exit (code : Int)
  deriving DecidableEq, Repr

namespace Exec

def ofHandle (handle : Handle) (timeout : Option Binary64) : Exec where
  handle := handle
  timeout := timeout
  main := .starting
  pump := .reading
  source := handle.master
  reap := some Call.reap.thread
  reapers := []
  stdout := []
  expired := false

def clockLimit : Int := 9223372036854775808

/-- Why a time limit cannot be kept, if it cannot. It is counted in nanoseconds, and a large one may
have infinitely many. A negative one counts as none left; one of exactly as many nanoseconds as
there are is taken for a negative one by the clock. -/
def limitFault? (limit : Option Binary64) : Option Fault := do
  match (← limit).timesNat 1000000000 with
  | .nan => some .timeoutNotANumber
  | .infinite negative => if negative then none else some .timeoutTooLarge
  | nanoseconds =>
    let count ← nanoseconds.toInt?
    if clockLimit < count then some .timeoutTooLarge
    else if count = clockLimit then some .timeoutNegative
    else none

def timedOutMessage (pid : Nat) (limit : Option Binary64) : String :=
  "Error: timed out after " ++ (limit.map Binary64.text).getD "None" ++ "s, killing pid " ++
    toString pid

def exitCodeMessage (result : Termination) : String :=
  "exit code: " ++ toString result.exitCode

def exitStatus (result : Termination) : Int :=
  if 0 ≤ result.exitCode then result.exitCode else 1

def goOn (exec : Exec) (point : ExecPoint) : Option Exec :=
  some { exec with main := point }

def notice (exec : Exec) (text : String) : Exec :=
  { exec with handle := exec.handle.record (.notice text) }

def absorb (exec : Exec) (progress : Progress) : Exec :=
  { exec with
    handle := progress.handle
    reapers :=
      match progress.started with
      | none => exec.reapers
      | some started => exec.reapers ++ [some started] }

def stepClosing (exec : Exec) (thread : Thread) (known : Option Termination) : Option Exec :=
  match exec.handle.step thread with
  | none => none
  | some progress =>
    let exec := exec.absorb progress
    match progress.next, progress.note with
    | some thread, _ => exec.goOn (.closing thread known)
    | none, some (.failed fault) => exec.goOn (.finished (.uncaught fault))
    | none, _ =>
      match known with
      | none => exec.goOn (.waiting Call.wait.thread true)
      | some result => exec.goOn (.announcing result)

def stepWaiting (exec : Exec) (thread : Thread) (timedOut : Bool) : Option Exec :=
  match exec.handle.step thread with
  | none => none
  | some progress =>
    let exec := exec.absorb progress
    match progress.next, progress.note with
    | some thread, _ => exec.goOn (.waiting thread timedOut)
    | none, some (.waited _ result) =>
      if timedOut then exec.goOn (.joiningPump (some result))
      else exec.goOn (.closing Call.close.thread (some result))
    | none, some (.failed fault) => exec.goOn (.finished (.uncaught fault))
    | none, _ => exec.goOn (.finished (.uncaught .missingResult))

def stepMain (exec : Exec) : Option Exec :=
  match exec.main with
  | .starting =>
    match limitFault? exec.timeout with
    | none => exec.goOn .joining
    | some fault => exec.goOn (.finished (.uncaught fault))
  | .joining => if exec.reap.isNone then exec.goOn .checking else none
  | .checking =>
    if exec.handle.done then exec.goOn (.joiningPump none)
    else
      (exec.notice (timedOutMessage exec.handle.host.pid exec.timeout)).goOn
        (.closing Call.close.thread none)
  | .closing thread known => exec.stepClosing thread known
  | .waiting thread timedOut => exec.stepWaiting thread timedOut
  | .joiningPump known =>
    match exec.pump, known with
    | .ended, none => exec.goOn (.waiting Call.wait.thread false)
    | .ended, some result => exec.goOn (.announcing result)
    | _, _ => none
  | .announcing result =>
    (exec.notice (exitCodeMessage result)).goOn (.finished (.exited (exitStatus result)))
  | .finished _ => none

def stepPump (exec : Exec) : Option Exec :=
  (Drain.step exec.source exec.handle.host exec.pump).map fun progress =>
    { exec with
      handle := { exec.handle with host := progress.host }
      pump := progress.point
      stdout := exec.stdout ++ progress.bytes }

def stepReap (exec : Exec) : Option Exec :=
  match exec.reap with
  | none => none
  | some thread =>
    (exec.handle.step thread).map fun progress =>
      { exec.absorb progress with reap := progress.next }

def stepReaper (exec : Exec) (place : Nat) : Option Exec :=
  match exec.reapers[place]? with
  | some (some thread) =>
    (exec.handle.step thread).map fun progress =>
      let exec := exec.absorb progress
      { exec with reapers := exec.reapers.set place progress.next }
  | _ => none

def step (exec : Exec) : ExecThread → Option Exec
  | .main => exec.stepMain
  | .pump => exec.stepPump
  | .reap => exec.stepReap
  | .reaper place => exec.stepReaper place

def expire (exec : Exec) : Option Exec :=
  if exec.main = .joining ∧ exec.timeout.isSome then
    some { exec with main := .checking, expired := true }
  else none

def exit (exec : Exec) (code : Int) : Exec :=
  { exec with handle := { exec.handle with host := exec.handle.host.exit code } }

def move (exec : Exec) : ExecMove → Exec
  | .step thread => (exec.step thread).getD exec
  | .expire => exec.expire.getD exec
  | .exit code => exec.exit code

def play (exec : Exec) (moves : List ExecMove) : Exec :=
  moves.foldl move exec

/-- Lets the main thread go on when it can, then the others in turn; the time limit runs out when no
thread can go on. -/
def next? (exec : Exec) : Option Exec :=
  exec.step .main <|> exec.step .pump <|> exec.step .reap <|> exec.step (.reaper 0) <|> exec.expire

def complete : Nat → Exec → Exec
  | 0, exec => exec
  | fuel + 1, exec =>
    match exec.next? with
    | none => exec
    | some exec => complete fuel exec

def bound (exec : Exec) : Nat :=
  Drain.bound exec.handle.host + 96

def ending? (exec : Exec) : Option Ending :=
  match exec.main with
  | .finished ending => some ending
  | _ => none

end Exec

end PtyShell.Cli
