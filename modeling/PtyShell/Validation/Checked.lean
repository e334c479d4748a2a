import PtyShell.Env
import PtyShell.Json.Basic
import PtyShell.Number.Integer
import PtyShell.Validation.Problem

/-!
# Checked values

Checking a value gives a typed one, or every problem it has: the parts of a value are checked
independently, and their problems are listed in the order of the parts.
-/

namespace PtyShell

inductive Checked (α : Type)
  | valid (value : α)
  | faulty (problems : List Problem)
  deriving DecidableEq, Repr

namespace Checked

variable {α β : Type}

def map (f : α → β) : Checked α → Checked β
  | .valid value => .valid (f value)
  | .faulty problems => .faulty problems

def problems : Checked α → List Problem
  | .valid _ => []
  | .faulty problems => problems

/-- Applies a checked function to a checked value, keeping the problems of both. -/
def ap : Checked (α → β) → Checked α → Checked β
  | .valid f, .valid value => .valid (f value)
  | .valid _, .faulty found => .faulty found
  | .faulty found, other => .faulty (found ++ other.problems)

instance : Applicative Checked where
  pure := .valid
  seq f value := ap f (value ())

def problem (kind : ProblemKind) : Checked α :=
  .faulty [⟨kind, []⟩]

def under (step : Locator) : Checked α → Checked α
  | .valid value => .valid value
  | .faulty problems => .faulty (problems.map (Problem.under step))

def items (check : Json → Checked α) : Nat → List Json → Checked (List α)
  | _, [] => .valid []
  | position, item :: rest =>
    ap (map List.cons (under (.index position) (check item))) (items check (position + 1) rest)

def entries (check : Json → Checked α) : List (String × Json) → Checked (List (String × α))
  | [] => .valid []
  | (name, value) :: rest =>
    ap (map (fun value rest => (name, value) :: rest) (under (.key name) (check value)))
      (entries check rest)

def integerOfFloat (number : Binary64) : Checked Int :=
  if !number.isFinite then problem .finiteNumber
  else
    match number.toInt? with
    | none => problem .intFromFloat
    | some value =>
      if leastMachineInteger < value ∧ value ≤ greatestMachineInteger then .valid value
      else problem .intParsingSize

def integerOfText (text : String) : Checked Int :=
  match Text.lenientInt text.toList with
  | .ok value => .valid value
  | .error .malformed => problem .intParsing
  | .error .tooLong => problem .intParsingSize

def integer : Json → Checked Int
  | .int value => .valid value
  | .bool value => .valid (if value then 1 else 0)
  | .float number => integerOfFloat number
  | .str text => integerOfText text
  | _ => problem .intType

def falseWords : List String := ["0", "off", "f", "false", "n", "no"]

def trueWords : List String := ["1", "on", "t", "true", "y", "yes"]

def booleanOfText (text : String) : Checked Bool :=
  let word := String.ofList (text.toList.map Char.toLower)
  if word ∈ trueWords then .valid true
  else if word ∈ falseWords then .valid false
  else problem .boolParsing

def booleanOfInteger (value : Int) : Checked Bool :=
  if value = 0 then .valid false else if value = 1 then .valid true else problem .boolParsing

/-- Only machine integers, and floating-point numbers that are one, are asked for their truth. -/
def boolean : Json → Checked Bool
  | .bool value => .valid value
  | .int value => if isMachineInteger value then booleanOfInteger value else problem .boolType
  | .float number =>
    match integerOfFloat number with
    | .valid value => booleanOfInteger value
    | .faulty _ => problem .boolType
  | .str text => booleanOfText text
  | _ => problem .boolType

def text : Json → Checked String
  | .str text => .valid text
  | _ => problem .stringType

def optionalText : Json → Checked (Option String)
  | .null => .valid none
  | value => map some (text value)

def environment : Json → Checked Env
  | .obj members => map Env.ofList (entries text members)
  | _ => problem .dictType

def texts : Json → Checked (List String)
  | .arr values => items text 0 values
  | _ => problem .listType

def object (check : List (String × Json) → Checked α) : Json → Checked α
  | .obj members => check members
  | _ => problem .modelType

def field (members : List (String × Json)) (name : String) (default : α)
    (check : Json → Checked α) : Checked α :=
  match Json.member? members name with
  | none => .valid default
  | some value => under (.key name) (check value)

def required (members : List (String × Json)) (name : String) (check : Json → Checked α) :
    Checked α :=
  match Json.member? members name with
  | none => .faulty [⟨.missing, [.key name]⟩]
  | some value => under (.key name) (check value)

end Checked

end PtyShell
