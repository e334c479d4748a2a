import PtyShell.Host

/-!
# Draining the terminal

A drain reads the master end until the stream ends, by an empty read or a failing one, and hands
every piece it reads to a sink.
-/

namespace PtyShell

inductive DrainPoint
  | reading
  /-- Inside a read that waits for the process. -/
  | blocked
  | ended
  deriving DecidableEq, Repr

namespace Drain

def readSize : Nat := 4096

def after : Host.ReadResult → DrainPoint × List UInt8
  | .data [] | .failed _ => (.ended, [])
  | .data bytes => (.reading, bytes)
  | .blocked => (.blocked, [])

structure Progress where
  point : DrainPoint
  bytes : List UInt8
  host : Host

def step (fd : Option Fd) (host : Host) : DrainPoint → Option Progress
  | .reading =>
    let (result, host) := host.read fd readSize
    let (point, bytes) := after result
    some ⟨point, bytes, host⟩
  | .blocked =>
    match host.lastRead with
    | .blocked => none
    | result =>
      let (point, bytes) := after result
      some ⟨point, bytes, host⟩
  | .ended => none

/-- The pieces that a drain hands to its sink before it stops, and where it stands then. -/
def pieces (fd : Option Fd) : Nat → Host → DrainPoint → List (List UInt8) × DrainPoint × Host
  | 0, host, point => ([], point, host)
  | fuel + 1, host, point =>
    match step fd host point with
    | none => ([], point, host)
    | some progress =>
      let (rest, stop) := pieces fd fuel progress.host progress.point
      (if progress.bytes.isEmpty then rest else progress.bytes :: rest, stop)

def bound (host : Host) : Nat :=
  host.unread + host.output.length + 2

def all (fd : Option Fd) (host : Host) : List (List UInt8) × DrainPoint × Host :=
  pieces fd (bound host) host .reading

end Drain

end PtyShell
