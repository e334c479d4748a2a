import PtyShell.Config.Basic
import PtyShell.Host

/-!
# Which shell to start

The configured shell comes first, then the one the environment names, then a few well-known names.
The first candidate that resolves to an executable file is taken; a fixed path is the last resort.
-/

namespace PtyShell.ShellSearch

def fallbackNames : List String := ["bash", "zsh", "sh"]

def lastResort : String := "/bin/sh"

def namedBy (env : Env) : String :=
  String.ofList (Text.trim Text.isSpacing (env.getD "SHELL").toList)

def unlessEmpty (text : String) : List String :=
  if text = "" then [] else [text]

def candidates (base : Env) (config : Config) : List String :=
  unlessEmpty (config.shell.getD "") ++ unlessEmpty (namedBy base) ++ fallbackNames

def searchDirectories (path : Option String) : List String :=
  match path with
  | none => ["/bin", "/usr/bin"]
  | some path => if path = "" then [] else (Path.splitBy ':' path.toList).map String.ofList

def isRunnable (host : Host) (path : String) : Bool :=
  host.isExecutable path && !host.isDirectory path

def findOnPath (host : Host) (name : String) : Option String :=
  ((searchDirectories (host.environ.get? "PATH")).map (Path.join · name)).find? (isRunnable host)

/-- A candidate with a separator is a path of a plain file, any other one is a name. -/
def resolve (host : Host) (candidate : String) : Option String :=
  if Path.hasSeparator candidate then
    if host.isFile candidate && host.isExecutable candidate then
      some (Path.absolute host.directory candidate)
    else none
  else findOnPath host candidate

def rejection (candidate : String) : String :=
  "Shell candidate " ++ Text.quoted candidate ++ " is not executable"

def firstOf : List String → Sys String
  | [] => pure lastResort
  | candidate :: others => do
    match resolve (← get) candidate with
    | some path => pure path
    | none =>
      Sys.log .debug .shellSearch (rejection candidate)
      firstOf others

def detect (base : Option Env) (config : Config) : Sys String := do
  firstOf (candidates (base.getD (← get).environ) config)

end PtyShell.ShellSearch
