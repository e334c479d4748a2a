namespace PtyShell

inductive ModelName
  | terminalSize
  | terminalSettings
  | config
  | shellOptions
  | command
  deriving DecidableEq, Repr

def ModelName.text : ModelName → String
  | .terminalSize => "TermSize"
  | .terminalSettings => "TermConfig"
  | .config => "ShellExecConfig"
  | .shellOptions => "CommandOpts"
  | .command => "PreparedCommand"

inductive Locator
  | key (name : String)
  | index (position : Nat)
  deriving DecidableEq, Repr

inductive ProblemKind
  | missing
  | modelType
  | intType
  | intParsing
  | intParsingSize
  | intFromFloat
  | finiteNumber
  | boolType
  | boolParsing
  | stringType
  | dictType
  | listType
  | noProgram
  | frozenInstance
  deriving DecidableEq, Repr

def ProblemKind.text : ProblemKind → String
  | .missing => "missing"
  | .modelType => "model_type"
  | .intType => "int_type"
  | .intParsing => "int_parsing"
  | .intParsingSize => "int_parsing_size"
  | .intFromFloat => "int_from_float"
  | .finiteNumber => "finite_number"
  | .boolType => "bool_type"
  | .boolParsing => "bool_parsing"
  | .stringType => "string_type"
  | .dictType => "dict_type"
  | .listType => "list_type"
  | .noProgram => "value_error"
  | .frozenInstance => "frozen_instance"

def ProblemKind.explanation? : ProblemKind → Option String
  | .noProgram => some "Value error, argv must contain at least the program"
  | _ => none

structure Problem where
  kind : ProblemKind
  place : List Locator
  deriving DecidableEq, Repr

def Problem.under (step : Locator) (problem : Problem) : Problem :=
  { problem with place := step :: problem.place }

end PtyShell
