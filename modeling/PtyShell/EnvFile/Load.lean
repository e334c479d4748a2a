import PtyShell.EnvFile.Reader
import PtyShell.Host
import PtyShell.Text.Letter

/-!
# Loading environment files

Values may refer to variables as `${NAME}`, with a default after `:-`. References are looked up
in the process environment first and then among the earlier statements of the file. Loading sets the
names that have a value and are not in the process environment yet, in the order of their first
mention, up to one that no environment can hold. A variable of the process environment can turn
loading off.
-/

namespace PtyShell.EnvFile

inductive Piece
  | char (c : Char)
  | reference (name : String) (default : String)
  deriving DecidableEq, Repr

/-- The name and default of a reference whose opening brace was just read. -/
def readReference? (text : List Char) : Option (Piece × List Char) :=
  let name := text.takeWhile fun c => c != '\x7D' && c != ':'
  match text.drop name.length with
  | '\x7D' :: rest => some (.reference (String.ofList name) "", rest)
  | ':' :: '-' :: rest =>
    let default := rest.takeWhile (· != '\x7D')
    match rest.drop default.length with
    | _ :: after => some (.reference (String.ofList name) (String.ofList default), after)
    | [] => none
  | _ => none

def pieces : Nat → List Char → List Piece
  | 0, _ => []
  | _ + 1, [] => []
  | fuel + 1, c :: rest =>
    match c, rest with
    | '$', '\x7B' :: inner =>
      match readReference? inner with
      | some (piece, after) => piece :: pieces fuel after
      | none => .char c :: pieces fuel rest
    | _, _ => .char c :: pieces fuel rest

abbrev Values := List (String × Option String)

def lookUp (environ : Env) (values : Values) (name default : String) : String :=
  match environ.get? name with
  | some value => value
  | none =>
    match values.find? (·.1 == name) with
    | some (_, value) => value.getD ""
    | none => default

def Piece.expand (environ : Env) (values : Values) : Piece → List Char
  | .char c => [c]
  | .reference name default => (lookUp environ values name default).toList

def expand (environ : Env) (values : Values) (text : List Char) : String :=
  String.ofList ((pieces (text.length + 1) text).flatMap (Piece.expand environ values))

/-- The values of a list of bindings, the latest first. -/
def resolve (environ : Env) (bindings : List Binding) : Values :=
  bindings.foldl
    (fun values binding =>
      (binding.name, binding.value.map (expand environ values)) :: values)
    []

def bindings (statements : List (Nat × Statement)) : List Binding :=
  statements.filterMap fun
    | (_, .binding binding) => some binding
    | _ => none

def latest (values : Values) : List (String × String) :=
  (values.reverse.map Prod.fst).eraseDups.filterMap fun name =>
    match values.find? (·.1 == name) with
    | some (_, some value) => some (name, value)
    | _ => none

def assignments (environ : Env) (statements : List (Nat × Statement)) : List (String × String) :=
  latest (resolve environ (bindings statements))

def objection? (name value : String) : Option Fault :=
  if Path.hasNul name || Path.hasNul value then some .embeddedNul
  else if name.toList.contains '=' then some .badVariableName
  else none

/-- Sets the variables that are not set yet, one after the other, until one cannot be set. -/
def extend (environ : Env) : List (String × String) → Env × Option Fault
  | [] => (environ, none)
  | (name, value) :: others =>
    if (environ.get? name).isSome then extend environ others
    else
      match objection? name value with
      | some fault => (environ, some fault)
      | none => extend (environ.set name value) others

def invalidMessage (line : Nat) : String :=
  "python-dotenv could not parse statement starting at line " ++ toString line

def warnings (statements : List (Nat × Statement)) : List Event :=
  statements.filterMap fun
    | (line, .invalid) => some (.log .warning .environmentFile (invalidMessage line))
    | _ => none

def disablingName : String := "PYTHON_DOTENV_DISABLED"

def disablingWords : List String := ["1", "true", "t", "yes", "y"]

def isDisabled (environ : Env) : Bool :=
  match environ.get? disablingName with
  | none => false
  | some word => String.ofList (word.toList.map Text.foldCase) ∈ disablingWords

def disabledMessage : String :=
  "python-dotenv: .env loading disabled by " ++ disablingName ++ " environment variable"

def load : Sys Unit := do
  let host ← get
  if isDisabled host.environ then Sys.log .debug .environmentFile disabledMessage
  else
    let read := statements host.dotenv
    let (environ, fault) := extend host.environ (assignments host.environ read)
    set { host with environ := environ, trace := host.trace ++ warnings read }
    Sys.failIf fault

end PtyShell.EnvFile
