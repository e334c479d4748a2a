import PtyShell.Handle.Basic

/-!
# Sessions

A handle together with all the threads that use it. A run of a session is a list of moves: a caller
appears, a thread takes its next step, or the process exits by itself. A move that is not possible
changes nothing.
-/

namespace PtyShell

structure Session where
  handle : Handle
  /-- The threads in the order of their appearance, none for those that have ended. -/
  threads : List (Option Thread)
  /-- What each thread made known, by its place among the threads. -/
  notes : List (Nat × Note)
  /-- The places of the threads that closing started. -/
  reapers : List Nat

inductive Move
  | call (call : Call)
  | advance (thread : Nat)
  | exit (code : Int)
  deriving DecidableEq, Repr

namespace Session

def ofHost (host : Host) : Session :=
  ⟨Handle.ofHost host, [], [], []⟩

def call (session : Session) (call : Call) : Session :=
  { session with threads := session.threads ++ [some call.thread] }

def exit (session : Session) (code : Int) : Session :=
  { session with handle := { session.handle with host := session.handle.host.exit code } }

def applied (session : Session) (thread : Nat) (progress : Progress) : Session where
  handle := progress.handle
  threads :=
    session.threads.set thread progress.next ++
      (match progress.started with
        | none => []
        | some started => [some started])
  notes :=
    session.notes ++
      (match progress.note with
        | none => []
        | some note => [(thread, note)])
  reapers :=
    session.reapers ++
      (match progress.started with
        | none => []
        | some _ => [session.threads.length])

def advance? (session : Session) (thread : Nat) : Option Session :=
  match session.threads[thread]? with
  | some (some point) => (session.handle.step point).map (session.applied thread)
  | _ => none

def move (session : Session) : Move → Session
  | .call call => session.call call
  | .advance thread => (session.advance? thread).getD session
  | .exit code => session.exit code

def run (session : Session) (moves : List Move) : Session :=
  moves.foldl move session

def stepBound : Nat := 32

def runThread (thread : Nat) : Nat → Session → Session
  | 0, session => session
  | fuel + 1, session =>
    match session.advance? thread with
    | none => session
    | some session => runThread thread fuel session

def runRound (session : Session) : Session :=
  (List.range session.threads.length).foldl
    (fun session thread => runThread thread stepBound session) session

def runRounds : Nat → Session → Session
  | 0, session => session
  | fuel + 1, session => runRounds fuel session.runRound

/-- Lets all threads go on until each has ended or has to wait for the process. Three rounds do: a
round may start the reaper, the next one may publish the result, and the last lets its observers
return. -/
def settle (session : Session) : Session :=
  runRounds 3 session

def hasEnded (session : Session) (thread : Nat) : Bool :=
  session.threads[thread]? == some none

def lastNote? (session : Session) (thread : Nat) : Option Note :=
  (session.notes.filter (·.1 == thread)).getLast?.map (·.2)

/-- Makes a call and lets its thread go on until it ends or has to wait; the note with which it
ended, none when it has to wait. -/
def perform (session : Session) (call : Call) : Option Note × Session :=
  let thread := session.threads.length
  let session := runThread thread stepBound (session.call call)
  (if session.hasEnded thread then session.lastNote? thread else none, session)

end Session

end PtyShell
