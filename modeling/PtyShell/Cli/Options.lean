import PtyShell.Commands
import PtyShell.Number.Binary64

namespace PtyShell.Cli

structure CommonOptions where
  rows : Int
  cols : Int
  cwd : Option String
  verbose : Bool
  config : Option String
  deriving DecidableEq, Repr

structure RunOptions where
  common : CommonOptions
  program : String
  arguments : List String
  deriving DecidableEq, Repr

structure ExecOptions where
  common : CommonOptions
  command : String
  login : Bool
  interactive : Bool
  timeout : Option Binary64
  deriving DecidableEq, Repr

def CommonOptions.size (options : CommonOptions) : TerminalSize :=
  ⟨options.rows, options.cols⟩

def RunOptions.prepared (options : RunOptions) : Command :=
  ⟨⟨options.program :: options.arguments, by simp⟩, options.common.cwd, Env.empty⟩

def ExecOptions.shellOptions (options : ExecOptions) : ShellOptions :=
  ⟨options.interactive, options.login, options.common.cwd, Env.empty⟩

end PtyShell.Cli
