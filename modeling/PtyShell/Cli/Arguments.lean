import PtyShell.Cli.Options
import PtyShell.Number.Integer

/-!
# Command-line arguments

A command line names a command, its options and its arguments, options and arguments in any order.
An option that takes a value takes the rest of its word or else the next word, whatever that is. A
later mention of an option wins over an earlier one, and two dashes end the options.
-/

namespace PtyShell.Cli

inductive Key
  | rows
  | cols
  | cwd
  | config
  | verbose
  | login
  | interactive
  | timeout
  | help
  deriving DecidableEq, Repr

structure OptionRule where
  key : Key
  long : String
  short : Option Char
  takesValue : Bool
  deriving DecidableEq, Repr

structure Setting where
  key : Key
  value : String
  deriving DecidableEq, Repr

structure Scanned where
  settings : List Setting
  arguments : List String
  deriving DecidableEq, Repr

def commonRules : List OptionRule := [
  ⟨.rows, "--rows", none, true⟩,
  ⟨.cols, "--cols", none, true⟩,
  ⟨.cwd, "--cwd", none, true⟩,
  ⟨.verbose, "--verbose", some 'v', false⟩,
  ⟨.config, "--config", some 'c', true⟩,
  ⟨.help, "--help", none, false⟩]

def execRules : List OptionRule :=
  commonRules ++ [
    ⟨.login, "--login", some 'l', false⟩,
    ⟨.interactive, "--interactive", some 'i', false⟩,
    ⟨.timeout, "--timeout", some 't', true⟩]

def groupRules : List OptionRule := [⟨.help, "--help", none, false⟩]

abbrev Taken := List Setting × List String

def shortOptions (rules : List OptionRule) : List Char → List String → Option Taken
  | [], rest => some ([], rest)
  | letter :: letters, rest =>
    match rules.find? (·.short == some letter) with
    | none => none
    | some rule =>
      if rule.takesValue then
        match letters, rest with
        | [], [] => none
        | [], next :: rest => some ([⟨rule.key, next⟩], rest)
        | _ :: _, _ => some ([⟨rule.key, String.ofList letters⟩], rest)
      else
        match shortOptions rules letters rest with
        | none => none
        | some (settings, rest) => some (⟨rule.key, ""⟩ :: settings, rest)

def longOption (rules : List OptionRule) (word : List Char) (rest : List String) :
    Option Taken :=
  let name := String.ofList (word.takeWhile (· ≠ '='))
  match rules.find? (·.long == name), word.dropWhile (· ≠ '=') with
  | none, _ => none
  | some rule, _ :: value =>
    if rule.takesValue then some ([⟨rule.key, String.ofList value⟩], rest) else none
  | some rule, [] =>
    if rule.takesValue then
      match rest with
      | [] => none
      | next :: rest => some ([⟨rule.key, next⟩], rest)
    else some ([⟨rule.key, ""⟩], rest)

def readOption (rules : List OptionRule) (word : List Char) (rest : List String) :
    Option Taken :=
  match word with
  | '-' :: '-' :: _ => longOption rules word rest
  | _ => shortOptions rules (word.drop 1) rest

def isOption (word : String) : Bool :=
  match word.toList with
  | '-' :: _ :: _ => true
  | _ => false

/-- Reads options and arguments. When options may not follow arguments, the first argument ends the
options. -/
def scan (rules : List OptionRule) (interspersed : Bool) : Nat → List String → Option Scanned
  | 0, _ => none
  | _ + 1, [] => some ⟨[], []⟩
  | fuel + 1, word :: rest =>
    if word = "--" then some ⟨[], rest⟩
    else if isOption word then
      match readOption rules word.toList rest with
      | none => none
      | some (settings, rest) =>
        match scan rules interspersed fuel rest with
        | none => none
        | some scanned => some { scanned with settings := settings ++ scanned.settings }
    else if interspersed then
      match scan rules interspersed fuel rest with
      | none => none
      | some scanned => some { scanned with arguments := word :: scanned.arguments }
    else some ⟨[], word :: rest⟩

def scanAll (rules : List OptionRule) (interspersed : Bool) (words : List String) :
    Option Scanned :=
  scan rules interspersed (words.length + 1) words

namespace Scanned

def value? (scanned : Scanned) (key : Key) : Option String :=
  ((scanned.settings.filter (·.key == key)).getLast?).map (·.value)

def has (scanned : Scanned) (key : Key) : Bool :=
  (scanned.value? key).isSome

def int? (scanned : Scanned) (key : Key) : Option Int :=
  match scanned.value? key with
  | none => some 0
  | some text => (Text.lenientInt text.toList).toOption

def timeout? (scanned : Scanned) : Option (Option Binary64) :=
  match scanned.value? .timeout with
  | none => some none
  | some text => (Text.lenientFloat? text.toList).map some

end Scanned

inductive Invocation
  /-- The command line is not understood. -/
  | usage
  | help
  | run (options : RunOptions)
  | exec (options : ExecOptions)
  deriving DecidableEq, Repr

def commonOptions? (scanned : Scanned) : Option CommonOptions := do
  let rows ← scanned.int? .rows
  let cols ← scanned.int? .cols
  return ⟨rows, cols, scanned.value? .cwd, scanned.has .verbose, scanned.value? .config⟩

def runOptions? (scanned : Scanned) : Option RunOptions :=
  match scanned.arguments with
  | [] => none
  | program :: arguments =>
    (commonOptions? scanned).map fun common => ⟨common, program, arguments⟩

def execOptions? (scanned : Scanned) : Option ExecOptions :=
  match scanned.arguments with
  | _ :: _ :: _ => none
  | arguments => do
    let common ← commonOptions? scanned
    let timeout ← scanned.timeout?
    return ⟨common, arguments.headD "", scanned.has .login, scanned.has .interactive, timeout⟩

/-- Reads the words after the name of a command; asking for help wins over all that can be wrong
with the values. -/
def readCommand (rules : List OptionRule) (read : Scanned → Option Invocation)
    (words : List String) : Invocation :=
  match scanAll rules true words with
  | none => .usage
  | some scanned => if scanned.has .help then .help else (read scanned).getD .usage

/-- Words that begin with no command are understood only when they ask for help. -/
def readUnknown (words : List String) : Invocation :=
  match scanAll groupRules false words with
  | none => .usage
  | some scanned => if scanned.has .help then .help else .usage

def Invocation.ofWords (words : List String) : Invocation :=
  match scanAll groupRules false words with
  | none => .usage
  | some scanned =>
    if scanned.has .help then .help
    else
      match scanned.arguments with
      | "run" :: rest => readCommand commonRules (fun found => (runOptions? found).map .run) rest
      | "exec" :: rest => readCommand execRules (fun found => (execOptions? found).map .exec) rest
      | rest => readUnknown rest

end PtyShell.Cli
