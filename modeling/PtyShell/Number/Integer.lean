import PtyShell.Number.FloatText

/-!
# Integers as text

Two grammars are in use. Model fields and command-line options take ASCII digits, which may be
grouped by single underscores, follow leading zeros and carry a fraction of zeros; the zeros of a
number without a sign may also stand before its minus. Environment variables take the digits of any
script and no fraction. Both refuse numbers of more than 4300 digits.
-/

namespace PtyShell

def leastMachineInteger : Int := -9223372036854775808

def greatestMachineInteger : Int := 9223372036854775807

def isMachineInteger (value : Int) : Bool :=
  leastMachineInteger ≤ value && value ≤ greatestMachineInteger

end PtyShell

namespace PtyShell.Text

def digitLimit : Nat := 4300

def firstUnwritable : Nat := Nat.pow 10 digitLimit

def isWritable (value : Int) : Bool :=
  value.natAbs < firstUnwritable

def signed (negative : Bool) (size : Nat) : Int :=
  if negative then -(size : Int) else size

inductive LenientFault
  | malformed
  | tooLong
  deriving DecidableEq, Repr

/-- Digit runs joined by single underscores: the digit values and the rest of the text. A run that
ends in an underscore, or holds two in a row, is refused. -/
def groupedDigits? (digit? : Char → Option Nat) : List Char → Option (List Nat × List Char)
  | [] => none
  | c :: rest =>
    match digit? c with
    | none => none
    | some value =>
      match rest with
      | '_' :: more =>
        match groupedDigits? digit? more with
        | none => none
        | some (values, rest) => some (value :: values, rest)
      | next :: more =>
        if (digit? next).isSome then
          match groupedDigits? digit? (next :: more) with
          | none => none
          | some (values, rest) => some (value :: values, rest)
        else some ([value], next :: more)
      | [] => some ([value], [])

/-- An integer in its plain form: digits without leading zeros, and a minus before them if it is
negative. The length limit counts the digits, and is noticed before anything that follows them. -/
def plainInt (text : List Char) : Except LenientFault Int :=
  let negative := text.head? == some '-'
  let (digits, rest) := spanDigits (if negative then text.drop 1 else text)
  match digits with
  | [] => .error .malformed
  | 0 :: others => if others.isEmpty ∧ rest.isEmpty then .ok 0 else .error .malformed
  | _ =>
    if digitLimit < digits.length then .error .tooLong
    else if rest.isEmpty then .ok (signed negative (digitsValue digits))
    else .error .malformed

def dropPlus? : List Char → Option (List Char)
  | '+' :: '-' :: _ => none
  | '+' :: rest => some rest
  | text => some text

/-- A text without its leading zeros and the underscores among them. Of nothing but these, and
before a point, the last one stays. A minus may follow the zeros. -/
def dropZeros? (text : List Char) : Option (List Char) :=
  if text.head? = some '0' then
    let zeros := text.takeWhile fun c => c == '0' || c == '_'
    let last := zeros.drop (zeros.length - 1)
    match text.drop zeros.length with
    | [] => some last
    | '.' :: rest => some (last ++ '.' :: rest)
    | c :: rest => if c.isDigit || c == '-' then some (c :: rest) else none
  else if (text.head?.map fun c => c.isDigit || c == '-').getD false then some text
  else none

def dropNullFraction (text : List Char) : List Char :=
  match text.dropWhile (· ≠ '.') with
  | '.' :: zeros =>
    if !zeros.isEmpty && zeros.all (· == '0') then text.takeWhile (· ≠ '.') else text
  | _ => text

/-- A text in the plain form, as far as its sign, zeros and underscores allow. A minus at the start
stays there while the zeros behind it go; one found behind zeros is then a second minus, which the
plain form refuses. -/
def tidied? (text : List Char) : Option (List Char) := do
  let text ← dropPlus? (trim isBlank text)
  let negative := text.head? == some '-'
  let text ← dropZeros? (if negative then text.drop 1 else text)
  let text := dropNullFraction text
  let text := (withoutUnderscores? text).getD text
  return if negative then '-' :: text else text

def lenientInt (text : List Char) : Except LenientFault Int :=
  match plainInt text with
  | .error .malformed =>
    match tidied? text with
    | none => .error .malformed
    | some plain => (plainInt plain).mapError fun _ => .malformed
  | outcome => outcome

inductive ScriptFault
  | malformed
  | tooManyDigits (count : Nat)
  deriving DecidableEq, Repr

def scriptInt (text : List Char) : Except ScriptFault Int :=
  let (negative, unsigned) := spanSign (trim isBlank text)
  match groupedDigits? digit? unsigned with
  | none => .error .malformed
  | some (digits, rest) =>
    if digitLimit < digits.length then .error (.tooManyDigits digits.length)
    else if ¬rest.isEmpty then .error .malformed
    else .ok (signed negative (digitsValue digits))

def digitLimitText (count : Option Nat) : String :=
  "Exceeds the limit (" ++ toString digitLimit ++ " digits) for integer string conversion" ++
    (match count with
      | none => ""
      | some count => ": value has " ++ toString count ++ " digits") ++
    "; use sys.set_int_max_str_digits() to increase the limit"

end PtyShell.Text
