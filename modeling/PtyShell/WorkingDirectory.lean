import PtyShell.Host

/-!
# Where a shell starts

A shell starts in the directory it was asked to start in, if that is one, and else in the home
directory.
-/

namespace PtyShell.WorkingDirectory

def objection (host : Host) (cwd : Option String) : Except Fault (Option String) :=
  match cwd with
  | none | some "" => .ok (some "cwd is empty")
  | some path =>
    match host.stat path with
    | .ok entry =>
      .ok (if entry.isDirectory then none
        else some ("cwd " ++ Text.quoted path ++ " is not a directory"))
    | .error fault =>
      if fault.isSystem then
        .ok (some ("error statting cwd " ++ Text.quoted path ++ ": " ++ fault.message))
      else .error fault

def accountHome (host : Host) : Except Fault String :=
  match host.environ.get? "HOME" <|> host.accountHome with
  | none => .error .noHome
  | some home =>
    let path := Text.trimEnd (· == '/') home.toList
    if path.head? = some '~' then .error .noHome
    else .ok (String.ofList (Path.tidy (if path.isEmpty then ['/'] else path)))

def home (host : Host) (base : Option Env) : Except Fault String :=
  let named := (base.getD host.environ).getD "HOME"
  if named = "" then accountHome host else .ok named

/-- The directory to start in. Falling back to the home directory is logged. -/
def choose (base : Option Env) (cwd : Option String) : Sys (Option String) := do
  match ← Sys.ofExcept (objection (← get) cwd) with
  | none => pure cwd
  | some reason =>
    let directory ← Sys.ofExcept (home (← get) base)
    Sys.log .debug .launcher ("Using home dir " ++ directory ++ " (" ++ reason ++ ")")
    pure (some directory)

end PtyShell.WorkingDirectory
