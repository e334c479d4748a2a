import PtyShell.Env
import PtyShell.Fault
import PtyShell.FileSystem
import PtyShell.Path
import PtyShell.Terminal

/-!
# The host

The machine under the program: its environment, files, one pseudo-terminal and one process. Every
call that reaches it is recorded in its trace, failing calls included, and so is what the program
logs and reports. Calls fail with the faults the host holds for them.
-/

namespace PtyShell

inductive Fd
  | master
  | slave
  deriving DecidableEq, Repr

inductive Level
  | debug
  | info
  | warning
  deriving DecidableEq, Repr

inductive Logger
  | launcher
  | runner
  | shellSearch
  | environmentFile
  deriving DecidableEq, Repr

def Level.text : Level → String
  | .debug => "DEBUG"
  | .info => "INFO"
  | .warning => "WARNING"

def Logger.name : Logger → String
  | .launcher => "shellexec.pty.proc"
  | .runner => "shellexec.pty.run"
  | .shellSearch => "shellexec.shellutil"
  | .environmentFile => "dotenv.main"

structure StartRequest where
  argv : List String
  cwd : Option String
  env : Env
  stdin : Fd
  stdout : Fd
  stderr : Fd
  closeOthers : Bool
  newSession : Bool
  claimTerminal : Bool
  deriving DecidableEq, Repr

inductive Event
  | openPty
  | resize (fd : Fd) (size : List UInt8)
  | querySize (fd : Fd)
  | start (request : StartRequest)
  | claimTerminal
  /-- `unread` counts the bytes of output not read by then. -/
  | close (fd : Fd) (unread : Nat)
  | kill
  | wait
  | read (size : Nat)
  | log (level : Level) (logger : Logger) (message : String)
  /-- A line on the standard error stream. -/
  | notice (text : String)
  deriving DecidableEq, Repr

inductive ReadEnd
  | error
  | empty
  deriving DecidableEq, Repr

structure CallFaults where
  openPty : Option Fault
  resize : Option Fault
  claimTerminal : Option Fault
  start : Option Fault
  kill : Option Fault
  /-- Of the master end. -/
  close : Option Fault
  closeSlave : Option Fault
  deriving DecidableEq, Repr

structure Host where
  pid : Nat
  environ : Env
  accountHome : Option String
  /-- How many values of a file may be nested in one another before the stack is used up. -/
  nesting : Nat
  directory : String
  files : FileSystem
  dotenv : String
  platform : String
  faults : CallFaults
  /-- Each wait takes the first of these and fails with it. -/
  waitFaults : List Fault
  /-- The return code of the process, none while it runs. -/
  returncode : Option Int
  killable : Bool
  /-- The chunks of output not read yet. -/
  output : List (List UInt8)
  readEnd : ReadEnd
  windowSize : List UInt8
  openFds : List Fd
  trace : List Event

/-- A computation on a host that may fail; its effects stay when it does. -/
abbrev Sys := EStateM Fault Host

namespace Host

def record (event : Event) (host : Host) : Host :=
  { host with trace := host.trace ++ [event] }

def unread (host : Host) : Nat :=
  host.output.flatten.length

def stat (host : Host) (path : String) : Except Fault Entry :=
  if Path.hasNul path then .error .embeddedNul
  else
    match host.files.find host.directory path with
    | .ok entry => .ok entry
    | .error (code, text) => .error (.system code text (some path))

def holds (host : Host) (path : String) (property : Entry → Bool) : Bool :=
  match host.stat path with
  | .ok entry => property entry
  | .error _ => false

def exists? (host : Host) (path : String) : Bool :=
  host.holds path fun _ => true

def isFile (host : Host) (path : String) : Bool :=
  host.holds path Entry.isFile

def isDirectory (host : Host) (path : String) : Bool :=
  host.holds path Entry.isDirectory

def isExecutable (host : Host) (path : String) : Bool :=
  host.holds path Entry.isExecutable

def readFile (host : Host) (path : String) : Except Fault (List UInt8) :=
  match host.stat path with
  | .error fault => .error fault
  | .ok (.file _ _ (some (code, text))) => .error (.system code text (some path))
  | .ok (.file _ content none) => .ok content
  | .ok .directory => .error (.system 21 "Is a directory" (some path))
  | .ok (.special _) => .ok []

def exit (code : Int) (host : Host) : Host :=
  { host with returncode := host.returncode <|> some code }

/-- What a call to wait meets when it begins: its fault, if one is left for it. -/
def enterWait (host : Host) : Option Fault × Host :=
  (host.waitFaults.head?, { host.record .wait with waitFaults := host.waitFaults.tail })

inductive ReadResult
  | data (bytes : List UInt8)
  | failed (fault : Fault)
  /-- The read has to wait for the process. -/
  | blocked
  deriving DecidableEq, Repr

def badDescriptor : Fault :=
  .system 9 "Bad file descriptor" none

def lastRead (host : Host) : ReadResult :=
  match host.returncode, host.readEnd with
  | none, _ => .blocked
  | some _, .error => .failed (.system 5 "Input/output error" none)
  | some _, .empty => .data []

def takeChunk (size : Nat) : List (List UInt8) → Option (List UInt8 × List (List UInt8))
  | [] => none
  | chunk :: rest =>
    let left := chunk.drop size
    some (chunk.take size, if left.isEmpty then rest else left :: rest)

def isOpen (host : Host) (fd : Fd) : Bool :=
  host.openFds.contains fd

/-- A read of at most `size` bytes of the output, an empty chunk of which reads like the end of the
stream; `none` stands for a descriptor given up before. -/
def read (fd : Option Fd) (size : Nat) (host : Host) : ReadResult × Host :=
  let host := host.record (.read size)
  if fd = some .master ∧ host.isOpen .master then
    match takeChunk size host.output with
    | some (bytes, rest) => (.data bytes, { host with output := rest })
    | none => (host.lastRead, host)
  else (.failed badDescriptor, host)

end Host

namespace Sys

def record (event : Event) : Sys Unit :=
  modify (Host.record event)

def log (level : Level) (logger : Logger) (message : String) : Sys Unit :=
  record (.log level logger message)

def failIf (fault : Option Fault) : Sys Unit :=
  match fault with
  | none => pure ()
  | some fault => throw fault

def ofExcept {α : Type} : Except Fault α → Sys α
  | .ok value => pure value
  | .error fault => throw fault

def openPty : Sys Unit := do
  record .openPty
  failIf (← get).faults.openPty
  modify fun host => { host with openFds := [.master, .slave] }

def resize (fd : Option Fd) (rows cols : Int) : Sys Unit := do
  let size ← ofExcept (Terminal.encode rows cols)
  match fd with
  | none => throw .negativeDescriptor
  | some fd =>
    record (.resize fd size)
    failIf (← get).faults.resize

def querySize (fd : Fd) : Sys (Int × Int) := do
  record (.querySize fd)
  ofExcept (Terminal.decode (← get).windowSize)

def claimTerminal : Sys Unit := do
  record .claimTerminal
  failIf (← get).faults.claimTerminal

/-- Starts the process; in the child every failure to claim the terminal looks the same. -/
def start (request : StartRequest) : Sys Unit := do
  record (.start request)
  failIf (← get).faults.start
  if request.claimTerminal then
    tryCatch claimTerminal fun _ => throw .childSetup

/-- Closes a descriptor; it is closed also when the call fails. -/
def close (fd : Fd) : Sys Unit := do
  modify fun host => { host.record (.close fd host.unread) with openFds := host.openFds.erase fd }
  match fd with
  | .master => failIf (← get).faults.close
  | .slave => failIf (← get).faults.closeSlave

def kill : Sys Unit := do
  record .kill
  failIf (← get).faults.kill
  modify fun host =>
    if host.killable then host.exit (-(Signal.killNumber : Int)) else host

end Sys

end PtyShell
