import PtyShell.Config.Basic
import PtyShell.Host
import PtyShell.Json.Reader

/-!
# Loading the configuration

Environment variables win over the configuration file, and the file over the defaults. Variables of
the environment file count as environment variables.
-/

namespace PtyShell.Config

abbrev Members := List (String × Json)

/-- What loading relies on: a step that adds the variables of the environment file to the process
environment, and the validation of a configuration. -/
structure Services where
  addVariables : Sys Unit
  validate : Json → Except Fault Config

/-- Integers have at most as many digits as can be converted, and nested values have to fit the
stack. -/
def limits (host : Host) : Json.Limits :=
  ⟨some Text.digitLimit, some host.nesting⟩

def decode (limits : Json.Limits) (content : List UInt8) : Except Fault Json :=
  match Text.Utf8.decode content with
  | .error refusal => .error (.badEncoding refusal)
  | .ok text =>
    let text := Text.unifyNewlines text
    match Json.parseWithin limits text with
    | .ok value => .ok value
    | .error (.malformed complaint rest) => .error (.badJson complaint text rest)
    | .error (.tooManyDigits count) => .error (.tooManyDigits count)
    | .error (.tooDeep nest) => .error (.nestedTooDeep nest)

/-- The value of the configuration file; no members when there is no such file. -/
def fileValue (host : Host) (path : Option String) : Except Fault Json :=
  let path := path.getD ""
  if path ≠ "" ∧ host.exists? path then host.readFile path >>= decode (limits host)
  else .ok (.obj [])

def members : Json → Except Fault Members
  | .obj members => .ok members
  | value => .error (.noMembers value.typeName)

def integer (text : String) : Except Fault Int :=
  match Text.scriptInt text.toList with
  | .ok value => .ok value
  | .error .malformed => .error (.badInteger text)
  | .error (.tooManyDigits count) => .error (.tooManyDigits count)

def assign (name : String) (member : Json) : Json → Except Fault Json
  | .obj members => .ok (.obj (Json.setMember name member members))
  | value => .error (.noAssignment value.typeName)

def overrideTerm (environ : Env) (source name : String)
    (read : String → Except Fault Json) (term : Json) : Except Fault Json :=
  let text := environ.getD source
  if text = "" then .ok term
  else do
    let member ← read text
    assign name member term

def readText (text : String) : Except Fault Json :=
  .ok (.str text)

def readInteger (text : String) : Except Fault Json :=
  (integer text).map .int

def mergedTerm (environ : Env) (file : Members) : Except Fault Json := do
  let term := (Json.member? file "term").getD (.obj [])
  let term ← overrideTerm environ "SHELLEXEC_TERM" "term_type" readText term
  let term ← overrideTerm environ "SHELLEXEC_ROWS" "rows" readInteger term
  overrideTerm environ "SHELLEXEC_COLS" "cols" readInteger term

def overrideMember (environ : Env) (source name : String) (file : Members) : Members :=
  let text := environ.getD source
  if text = "" then file else Json.setMember name (.str text) file

/-- The members of the file with those of the environment over them. Terminal settings that are
null, false, zero or empty leave the file's as they are. -/
def merged (environ : Env) (file : Members) : Except Fault Members := do
  let term ← mergedTerm environ file
  let file := if term.isSet then Json.setMember "term" term file else file
  return overrideMember environ "SHELLEXEC_LANG" "lang"
    (overrideMember environ "SHELLEXEC_SHELL" "shell" file)

def ofSources (validate : Json → Except Fault Config) (environ : Env) (file : Json) :
    Except Fault Config := do
  let members ← members file
  let members ← merged environ members
  validate (.obj members)

def loadWith (services : Services) (path : Option String) : Sys Config := do
  services.addVariables
  let host ← get
  Sys.ofExcept (do
    let file ← fileValue host path
    ofSources services.validate host.environ file)

end PtyShell.Config
