import PtyShell.Config.Basic

namespace PtyShell

def Env.json (env : Env) : Json :=
  .obj (env.entries.map fun entry => (entry.1, .str entry.2))

structure ShellOptions where
  interactive : Bool
  login : Bool
  cwd : Option String
  /-- Variables set in the child after everything else; an empty value removes one. -/
  env : Env
  deriving DecidableEq, Repr

namespace ShellOptions

def default : ShellOptions := ⟨false, false, none, Env.empty⟩

def check : Json → Checked ShellOptions :=
  Checked.object fun members =>
    ShellOptions.mk <$> Checked.field members "interactive" default.interactive Checked.boolean
      <*> Checked.field members "login" default.login Checked.boolean
      <*> Checked.field members "cwd" default.cwd Checked.optionalText
      <*> Checked.field members "env" default.env Checked.environment

def fields (opts : ShellOptions) : List (String × Json) :=
  [("interactive", .bool opts.interactive), ("login", .bool opts.login),
    ("cwd", Config.textJson opts.cwd), ("env", opts.env.json)]

end ShellOptions

structure Argv where
  words : List String
  hasProgram : words ≠ []
  deriving DecidableEq, Repr

namespace Argv

def ofWords : List String → Checked Argv
  | [] => .problem .noProgram
  | program :: arguments => .valid ⟨program :: arguments, by simp⟩

def check (value : Json) : Checked Argv :=
  match Checked.texts value with
  | .valid words => ofWords words
  | .faulty problems => .faulty problems

end Argv

structure Command where
  argv : Argv
  cwd : Option String
  env : Env
  deriving DecidableEq, Repr

namespace Command

def check : Json → Checked Command :=
  Checked.object fun members =>
    Command.mk <$> Checked.required members "argv" Argv.check
      <*> Checked.field members "cwd" none Checked.optionalText
      <*> Checked.field members "env" Env.empty Checked.environment

def fields (command : Command) : List (String × Json) :=
  [("argv", .arr (command.argv.words.map .str)), ("cwd", Config.textJson command.cwd),
    ("env", command.env.json)]

end Command

end PtyShell
