import PtyShell.Commands
import PtyShell.Config.Check

namespace PtyShell

structure Record where
  model : ModelName
  fields : List (String × Json)
  deriving DecidableEq, Repr

def ModelName.isFrozen : ModelName → Bool
  | .terminalSize | .shellOptions | .command => true
  | .terminalSettings | .config => false

namespace Record

def checkFields : ModelName → Json → Checked (List (String × Json))
  | .terminalSize, value => (TerminalSize.check value).map TerminalSize.fields
  | .terminalSettings, value => (TerminalSettings.check value).map TerminalSettings.fields
  | .config, value => (Config.check value).map Config.fields
  | .shellOptions, value => (ShellOptions.check value).map ShellOptions.fields
  | .command, value => (Command.check value).map Command.fields

def ofJson (model : ModelName) (value : Json) : Except Fault Record :=
  match checkFields model value with
  | .valid fields => .ok ⟨model, fields⟩
  | .faulty problems => .error (.badModel model problems)

def isPrivate (field : String) : Bool :=
  field.toList.head? == some '_'

def computedNames : List String :=
  ["model_extra", "model_fields_set", "__fields_set__"]

/-- Assigns to a name. A private one that is not computed may always be assigned to, which no field
shows. -/
def assign (record : Record) (field : String) (value : Json) : Except Fault Record :=
  if isPrivate field ∧ field ∉ computedNames then .ok record
  else if ¬isPrivate field ∧ record.model.isFrozen then
    .error (.badModel record.model [⟨.frozenInstance, [.key field]⟩])
  else if field ∈ computedNames then .error (.computedName record.model field)
  else if (Json.member? record.fields field).isSome then
    .ok { record with fields := Json.setMember field value record.fields }
  else .error (.unknownField record.model field)

end Record

end PtyShell
