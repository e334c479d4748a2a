import PtyShell.TerminalSize

namespace PtyShell

structure TerminalSettings where
  rows : Int
  cols : Int
  termType : String
  deriving DecidableEq, Repr

namespace TerminalSettings

def default : TerminalSettings := ⟨24, 80, "xterm-256color"⟩

def fields (term : TerminalSettings) : List (String × Json) :=
  [("rows", .int term.rows), ("cols", .int term.cols), ("term_type", .str term.termType)]

end TerminalSettings

structure Config where
  term : TerminalSettings
  shell : Option String
  lang : String
  deriving DecidableEq, Repr

namespace Config

def default : Config := ⟨TerminalSettings.default, none, "en_US.UTF-8"⟩

def textJson : Option String → Json
  | none => .null
  | some text => .str text

def fields (config : Config) : List (String × Json) :=
  [("term", .obj config.term.fields), ("shell", textJson config.shell),
    ("lang", .str config.lang)]

def defaultSize (config : Config) : TerminalSize :=
  ⟨config.term.rows, config.term.cols⟩

end Config

end PtyShell
