import PtyShell.Drain
import PtyShell.Handle.Session

namespace PtyShell

inductive Inquiry
  | close
  /-- Entering a block that closes the handle when it is left. -/
  | enter
  | release
  | publish (report : Option Report)
  | exit (code : Int)
  | reap
  | wait
  | poll
  | drain
  | resize (rows cols : Int)
  | describe
  deriving DecidableEq, Repr

inductive Request
  | plain (inquiry : Inquiry)
  /-- Begins to wait, makes another request, and goes on waiting. -/
  | waitAround (request : Request)
  deriving DecidableEq, Repr

structure Seen where
  done : Bool
  master : Option Fd
  events : List Event
  deriving DecidableEq, Repr

inductive Reply
  | nothing
  | truth (value : Bool)
  | result (result : Termination)
  | polled (done : Bool) (result : Option Termination)
  | bytes (bytes : List UInt8)
  | refused (fault : Fault)
  | text (text : String)
  | blocked
  | raised (fault : Fault)
  /-- The reply to the request made while waiting; `unfinished` tells that nothing was published by
  then, so that a report had to be published to end the wait. -/
  | around (inner : Reply) (seen : Seen) (unfinished : Bool) (result : Reply)
  deriving DecidableEq, Repr

namespace Reply

def ofNote : Note → Reply
  | .closed | .released => .nothing
  | .published _ _ won => .truth won
  | .waited _ found => .result found
  | .polled done found => .polled done found
  | .failed fault => .raised fault

def raised? : Reply → Option Fault
  | .raised fault => some fault
  | .around inner _ _ last => inner.raised? <|> last.raised?
  | _ => none

end Reply

namespace Session

def eventsSince (session : Session) (count : Nat) : List Event :=
  session.handle.host.trace.drop count

def eventCount (session : Session) : Nat :=
  session.handle.host.trace.length

def askCall (session : Session) (call : Call) : Reply × Session :=
  match session.perform call with
  | (some note, session) => (.ofNote note, session)
  | (none, _) => (.blocked, session)

def drainWaits (session : Session) : Bool :=
  session.handle.host.returncode.isNone && session.handle.master.isSome

def askDrain (session : Session) : Reply × Session :=
  if session.drainWaits then (.blocked, session)
  else
    let (pieces, _, host) := Drain.all session.handle.master session.handle.host
    (.bytes pieces.flatten, { session with handle := { session.handle with host := host } })

def askResize (session : Session) (rows cols : Int) : Reply × Session :=
  match (Sys.resize session.handle.master rows cols).run session.handle.host with
  | .ok _ host => (.nothing, { session with handle := { session.handle with host := host } })
  | .error fault host =>
    (.refused fault, { session with handle := { session.handle with host := host } })

def unfinished : Report :=
  .fault (.runtime "unfinished")

def askPlain (session : Session) : Inquiry → Reply × Session
  | .close => session.askCall .close
  | .enter => (.truth true, session)
  | .release => session.askCall .release
  | .publish report => session.askCall (.publish report)
  | .exit code => (.nothing, session.exit code)
  | .reap => session.askCall .reap
  | .wait => session.askCall .wait
  | .poll => session.askCall .poll
  | .drain => session.askDrain
  | .resize rows cols => session.askResize rows cols
  | .describe => (.text session.handle.shown, session)

/-- Ends a wait: publishes a report if there is none, and waits for the result. -/
def endWait (session : Session) : Reply × Session :=
  let session :=
    if session.handle.done then session
    else (session.askCall (.publish (some unfinished))).2.settle
  let (reply, session) := session.askCall .wait
  (reply, session.settle)

def ask (session : Session) : Request → Reply × List Event × Session
  | .plain inquiry =>
    let (reply, after) := session.askPlain inquiry
    let after := after.settle
    (reply, after.eventsSince session.eventCount, after)
  | .waitAround request =>
    let (inner, events, between) := session.ask request
    let seen := ⟨between.handle.done, between.handle.master, events⟩
    let (last, after) := between.endWait
    (.around inner seen (!between.handle.done) last, after.eventsSince between.eventCount, after)

def askAll (session : Session) : List Request → List (Reply × Seen)
  | [] => []
  | request :: requests =>
    let (reply, events, session) := session.ask request
    (reply, ⟨session.handle.done, session.handle.master, events⟩) :: session.askAll requests

end Session

end PtyShell
