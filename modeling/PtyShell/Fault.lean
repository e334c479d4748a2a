import PtyShell.CommandStatus
import PtyShell.Json.Reader
import PtyShell.Text.Utf8
import PtyShell.Validation.Problem

namespace PtyShell

inductive Fault
  /-- A call to the system failed with an error number. -/
  | system (code : Int) (text : String) (path : Option String)
  /-- A process ended with a return code other than zero; `-n` means death by signal `n`. -/
  | exited (returncode : Int)
  /-- A checked command failed. -/
  | commandFailed (status command : Json)
  /-- The status of a checked command was to be put into words. -/
  | badStatus (complaint : StatusComplaint)
  | invalidSize (rows cols : Int)
  | ptyOpen (reason : Fault) (raised : Bool)
  | ptySize (rows cols : Int) (reason : Fault) (raised : Bool)
  | processStart (argv : List String) (reason : Fault) (raised : Bool)
  | package (text : String)
  | runtime (text : String)
  | invalid (text : String)
  | interrupt (text : String)
  | childProcess (text : String)
  /-- The child could not acquire its controlling terminal. -/
  | childSetup
  | embeddedNul
  /-- The name of a variable holds an equals sign. -/
  | badVariableName
  | negativeDescriptor
  /-- A dimension is outside the 16 bits of its field. -/
  | dimensionRange
  /-- A dimension is outside every machine integer. -/
  | dimensionOverflow
  /-- The system answered a window size of the wrong length. -/
  | dimensionLength
  | noHome
  | badInteger (text : String)
  | tooManyDigits (count : Nat)
  | badEncoding (refusal : Text.Utf8.Refusal)
  | badJson (complaint : Json.Complaint) (text rest : List Char)
  | nestedTooDeep (nest : Json.Nest)
  | badModel (model : ModelName) (problems : List Problem)
  | unknownField (model : ModelName) (field : String)
  /-- A name that every record computes was to be assigned to. -/
  | computedName (model : ModelName) (name : String)
  /-- A value that is no object was asked for a member. -/
  | noMembers (type : String)
  /-- A value that is no object was asked to take a member. -/
  | noAssignment (type : String)
  | timeoutNotANumber
  | timeoutTooLarge
  | timeoutNegative
  | missingResult
  deriving DecidableEq, Repr

namespace Fault

def isSystem : Fault → Bool
  | .system .. => true
  | _ => false

def isChildProcess : Fault → Bool
  | .childProcess _ | .commandFailed .. | .childSetup => true
  | _ => false

def isEncoding : Fault → Bool
  | .dimensionRange | .dimensionOverflow | .dimensionLength => true
  | _ => false

def isPackage : Fault → Bool
  | .exited _ | .invalidSize .. | .ptyOpen .. | .ptySize .. | .processStart .. | .package _ => true
  | _ => false

def cause? : Fault → Option Fault
  | .ptyOpen reason true | .ptySize _ _ reason true | .processStart _ reason true => some reason
  | _ => none

def unwritable : Fault :=
  .invalid (Text.digitLimitText none)

def exitMessage (returncode : Int) : String :=
  if returncode < 0 then
    "process killed by " ++ (Signal.name? returncode.natAbs).getD
      ("signal " ++ toString returncode.natAbs)
  else "process exited with status " ++ toString returncode

/-- What is met instead of the message of a failed command, if that cannot be put together. The
status is compared first, the command written out next and the status last. -/
def commandObjection? (status command : Json) : Option Fault :=
  match CommandStatus.message status command with
  | .error (.notComparable type) => some (.badStatus (.notComparable type))
  | outcome =>
    if command.isWritable then
      match outcome with
      | .ok _ => if status.isWritable then none else some unwritable
      | .error complaint => some (.badStatus complaint)
    else some unwritable

/-- What is met instead of the message of a fault that has none. -/
def objection? : Fault → Option Fault
  | .commandFailed status command => commandObjection? status command
  | _ => none

/-- A fault around another one, unless that has no message. -/
def wrap (around : Fault → Fault) (reason : Fault) : Fault :=
  reason.objection?.getD (around reason)

def commandMessage (status command : Json) : String :=
  match CommandStatus.message status command with
  | .ok text => text
  | .error complaint => complaint.text

def shownLength : Nat := 200

def integerMessage (text : String) : String :=
  "invalid literal for int() with base 10: " ++
    String.ofList ((Text.quotedChars text.toList).take shownLength)

def message : Fault → String
  | .system code text path =>
    "[Errno " ++ toString code ++ "] " ++ text ++
      (match path with
        | none => ""
        | some path => ": " ++ Text.quoted path)
  | .exited returncode => exitMessage returncode
  | .commandFailed status command => commandMessage status command
  | .badStatus complaint => complaint.text
  | .invalidSize rows cols =>
    "invalid term size: rows=" ++ toString rows ++ " cols=" ++ toString cols
  | .ptyOpen reason _ => "opening new pty: " ++ reason.message
  | .ptySize rows cols reason _ =>
    "setting pty size " ++ toString rows ++ "x" ++ toString cols ++ ": " ++ reason.message
  | .processStart argv reason _ => "starting " ++ argv.headD "?" ++ ": " ++ reason.message
  | .package text | .runtime text | .invalid text | .interrupt text | .childProcess text => text
  | .childSetup => "Exception occurred in preexec_fn."
  | .embeddedNul => "embedded null byte"
  | .badVariableName => "illegal environment variable name"
  | .negativeDescriptor => "file descriptor cannot be a negative integer (-1)"
  | .dimensionRange => "ushort format requires 0 <= number <= 65535"
  | .dimensionOverflow => "argument out of range"
  | .dimensionLength => "unpack requires a buffer of 8 bytes"
  | .noHome => "Could not determine home directory."
  | .badInteger text => integerMessage text
  | .tooManyDigits count => Text.digitLimitText (some count)
  | .badEncoding refusal => refusal.message
  | .badJson complaint text rest => complaint.at text rest
  | .nestedTooDeep nest => nest.message
  | .badModel model _ => "invalid " ++ model.text
  | .unknownField model field =>
    "\"" ++ model.text ++ "\" object has no field \"" ++ field ++ "\""
  | .computedName model name =>
    "property '" ++ name ++ "' of '" ++ model.text ++ "' object has no setter"
  | .noMembers type => "'" ++ type ++ "' object has no attribute 'get'"
  | .noAssignment type =>
    if type = "list" then "list indices must be integers or slices, not str"
    else "'" ++ type ++ "' object does not support item assignment"
  | .timeoutNotANumber => "Invalid value NaN (not a number)"
  | .timeoutTooLarge => "timestamp too large to convert to C _PyTime_t"
  | .timeoutNegative => "timeout value must be positive"
  | .missingResult => ""

end Fault

end PtyShell
