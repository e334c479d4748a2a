import PtyShell.Json.Basic
import PtyShell.Signal

namespace PtyShell

inductive StatusComplaint
  /-- A value that counts as set is compared with zero first. -/
  | notComparable (type : String)
  | notANumber (type : String)
  | infinite
  | nan
  deriving DecidableEq, Repr

def StatusComplaint.text : StatusComplaint → String
  | .notComparable type => "'<' not supported between instances of '" ++ type ++ "' and 'int'"
  | .notANumber type => "%d format: a real number is required, not " ++ type
  | .infinite => "cannot convert float infinity to integer"
  | .nan => "cannot convert float NaN to integer"

structure CommandStatus where
  negative : Bool
  size : Nat
  isWhole : Bool
  deriving DecidableEq, Repr

namespace CommandStatus

def ofFloat (number : Binary64) : Except StatusComplaint CommandStatus :=
  match number with
  | .finite negative mantissa _ =>
    .ok ⟨negative && mantissa != 0, number.wholeSize?.getD 0, number.toInt?.isSome⟩
  | .infinite _ => .error .infinite
  | .nan => .error .nan

def ofJson : Json → Except StatusComplaint CommandStatus
  | .int value => .ok ⟨value < 0, value.natAbs, true⟩
  | .bool value => .ok ⟨false, if value then 1 else 0, true⟩
  | .float value => ofFloat value
  | value =>
    .error (if value.isSet then .notComparable value.typeName else .notANumber value.typeName)

/-- The name of the signal that a whole number below zero stands for. -/
def signalName? (status : CommandStatus) : Option String :=
  if status.isWhole then Signal.name? status.size else none

def text (status : CommandStatus) : String :=
  if status.negative then
    match status.signalName? with
    | some name => "died with <Signals." ++ name ++ ": " ++ toString status.size ++ ">."
    | none => "died with unknown signal " ++ toString status.size ++ "."
  else "returned non-zero exit status " ++ toString status.size ++ "."

def message (status command : Json) : Except StatusComplaint String :=
  (ofJson status).map fun number => "Command '" ++ command.shown ++ "' " ++ number.text

/-- The exit code of a status: an integer that is not negative; a truth value counts as 0 or 1. -/
def exitCode? : Json → Option Int
  | .int value => if 0 ≤ value then some value else none
  | .bool value => some (if value then 1 else 0)
  | _ => none

end CommandStatus

end PtyShell
