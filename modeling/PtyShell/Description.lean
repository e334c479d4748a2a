import PtyShell.FileTree
import PtyShell.Host
import PtyShell.Termination

/-!
# Descriptions

A host, and the faults it holds, described as JSON. A member that is null counts as left out.
-/

namespace PtyShell

def pid : Nat := 4242

namespace Description

def nesting : Nat := 989

def member? (value : Json) (name : String) : Option Json :=
  match value.field? name with
  | some .null => none
  | found => found

def text? : Json → Option String
  | .str text => some text
  | _ => none

def int? : Json → Option Int
  | .int value => some value
  | _ => none

def items : Json → List Json
  | .arr items => items
  | _ => []

def textMember (value : Json) (name : String) : String :=
  ((member? value name).bind text?).getD ""

def intMember (value : Json) (name : String) : Int :=
  ((member? value name).bind int?).getD 0

def shownMember (value : Json) (name : String) : String :=
  ((value.field? name).map Json.shown).getD ""

def flag (value : Json) (name : String) (default : Bool) : Bool :=
  ((member? value name).map Json.isSet).getD default

def environment : Json → Env
  | .obj members => Env.ofList (members.map fun member => (member.1, (text? member.2).getD ""))
  | _ => Env.empty

def reasonFault : Option Report → Fault
  | none => .runtime Json.null.shown
  | some (.value value) => .runtime value.shown
  | some (.fault fault) => fault

/-- A fault around a described reason, or the fault met in describing it: a reason without a message
cannot be wrapped. -/
def around (build : Fault → Fault) (reason : Except Fault (Option Report)) :
    Except Fault (Option Report) := do
  let fault := reasonFault (← reason)
  match fault.objection? with
  | none => return some (.fault (build fault))
  | some objection => throw objection

def reportOf (kind : String) (value : Json) (reason : Except Fault (Option Report)) :
    Except Fault (Option Report) :=
  let fault (fault : Fault) : Except Fault (Option Report) := .ok (some (.fault fault))
  match kind with
  | "value" => .ok ((member? value "value").map .value)
  | "OSError" =>
    fault (.system (intMember value "errno") (shownMember value "strerror")
      ((member? value "filename").bind text?))
  | "ProcessExitError" => fault (.exited (intMember value "returncode"))
  | "CalledProcessError" =>
    fault (.commandFailed ((value.field? "returncode").getD .null)
      ((value.field? "cmd").getD .null))
  | "InvalidTermSizeError" => fault (.invalidSize (intMember value "rows") (intMember value "cols"))
  | "PtyOpenError" => around (.ptyOpen · false) reason
  | "PtySizeError" =>
    around (.ptySize (intMember value "rows") (intMember value "cols") · false) reason
  | "ProcessStartError" =>
    let argv := ((member? value "argv").map items).getD [] |>.filterMap text?
    around (.processStart argv · false) reason
  | "ShellExecError" => fault (.package (shownMember value "message"))
  | "RuntimeError" => fault (.runtime (shownMember value "message"))
  | "ValueError" => fault (.invalid (shownMember value "message"))
  | "KeyboardInterrupt" => fault (.interrupt (shownMember value "message"))
  | "SubprocessError" => fault (.childProcess (shownMember value "message"))
  | _ => .ok none

mutual

def report? : Json → Except Fault (Option Report)
  | .obj members =>
    reportOf (textMember (.obj members) "kind") (.obj members) (reason? members)
  | _ => .ok none

def reason? : List (String × Json) → Except Fault (Option Report)
  | [] => .ok none
  | (name, value) :: members => if name = "cause" then report? value else reason? members

end

def fault? (value : Json) : Option Fault :=
  match report? value with
  | .error fault | .ok (some (.fault fault)) => some fault
  | .ok _ => none

def bytes (value : Json) : List UInt8 :=
  ((text? value).bind fun text => Text.hexBytes? text.toList).getD []

def bytesMember (value : Json) (name : String) : List UInt8 :=
  ((member? value name).map bytes).getD []

def chunk (value : Json) : List UInt8 :=
  let times := (((member? value "repeat").bind int?).getD 1).toNat
  (List.replicate times (bytesMember value "hex")).flatten

def content (value : Json) : List UInt8 :=
  match (member? value "content").bind text? with
  | some text => Text.Utf8.encode text.toList
  | none => bytesMember value "hex"

def entry (value : Json) : Except Refusal Entry :=
  match (member? value "errno").bind int? with
  | some code => .error (code, shownMember value "strerror")
  | none =>
    match textMember value "kind" with
    | "dir" => .ok .directory
    | "file" =>
      .ok (.file (flag value "exec" false) (content value)
        (((member? value "open_errno").bind int?).map (·, shownMember value "strerror")))
    | _ => .ok (.special (flag value "exec" false))

/-- Paths are seen from the working directory; the last description of a place counts. -/
def files (directory : String) : Json → FileTree
  | .obj members =>
    ⟨(members.map fun member => (Path.location directory member.1, entry member.2)).reverse⟩
  | _ => ⟨[]⟩

def returncode (process : Json) : Option Int :=
  match process.field? "returncode" with
  | none => some 0
  | some value => int? value

def host (value : Json) (platform : String) : Host :=
  let process := (member? value "world").getD (.obj [])
  let fault (name : String) := (member? process name).bind fault?
  let directory := ((member? value "getcwd").bind text?).getD "/"
  { pid := pid
    environ := ((member? value "environ").map environment).getD Env.empty
    accountHome := (member? value "passwd_home").bind text?
    nesting := nesting
    directory := directory
    files := (files directory ((member? value "fs").getD .null)).system
    dotenv := textMember value "dotenv"
    platform := platform
    faults :=
      { openPty := fault "open_error"
        resize := fault "size_error"
        claimTerminal := fault "ctty_error"
        start := fault "start_error"
        kill := fault "kill_error"
        close := fault "close_error"
        closeSlave := none }
    waitFaults := ((member? process "wait_errors").map items).getD [] |>.filterMap fault?
    returncode := returncode process
    killable := flag process "killable" true
    output := ((member? process "output").map items).getD [] |>.map chunk
    readEnd := if textMember process "read_end" = "eof" then .empty else .error
    windowSize := bytesMember process "winsize"
    openFds := []
    trace := [] }

end Description

end PtyShell
