import PtyShell.Number.Binary64
import PtyShell.Text.Blank
import PtyShell.Text.Digit

namespace PtyShell

namespace Binary64

def exactDecimal (mantissa : Nat) (exponent : Int) : Nat × Int :=
  if 0 ≤ exponent then (mantissa * twoTo exponent.toNat, 0)
  else (mantissa * Nat.pow 5 (-exponent).toNat, exponent)

def decimalOfWidth? (number : Binary64) (digits : Nat) (exponent : Int) (width : Nat) :
    Option (Nat × Int) :=
  let cut := decimalLength digits - width
  let unit := tenTo cut
  let below := digits / unit
  let rest := digits % unit
  let exponent := exponent + cut
  let readsBack (candidate : Nat) : Bool := ofDecimal false candidate exponent == number
  let lower := readsBack below
  let upper := rest != 0 && readsBack (below + 1)
  if lower && upper then
    let isNearer := 2 * rest < unit || (2 * rest == unit && below % 2 == 0)
    some (if isNearer then below else below + 1, exponent)
  else if lower then some (below, exponent)
  else if upper then some (below + 1, exponent)
  else none

def shortestDecimal (mantissa : Nat) (exponent : Int) : Nat × Int :=
  let (digits, power) := exactDecimal mantissa exponent
  let widths := (List.range 17).map (· + 1)
  (widths.findSome? (decimalOfWidth? (.finite false mantissa exponent) digits power)).getD
    (digits, power)

structure Layout where
  leastPoint : Int
  greatestPoint : Int
  exponentWidth : Nat
  deriving DecidableEq, Repr

/-- Numbers from `10 ^ -4` up to `10 ^ 16` are written positionally. -/
def layout : Layout := ⟨-3, 16, 2⟩

def exponentText (width : Nat) (exponent : Int) : List Char :=
  let digits := Nat.toDigits 10 exponent.natAbs
  'e' :: (if exponent < 0 then '-' else '+') ::
    (List.replicate (width - digits.length) '0' ++ digits)

def laidOut (rule : Layout) (digits : List Char) (point : Int) : List Char :=
  if point < rule.leastPoint ∨ rule.greatestPoint < point then
    let fraction := digits.drop 1
    digits.take 1 ++ (if fraction.isEmpty then [] else '.' :: fraction) ++
      exponentText rule.exponentWidth (point - 1)
  else if point ≤ 0 then
    ['0', '.'] ++ List.replicate (-point).toNat '0' ++ digits
  else if digits.length ≤ point.toNat then
    digits ++ List.replicate (point.toNat - digits.length) '0' ++ ['.', '0']
  else digits.take point.toNat ++ '.' :: digits.drop point.toNat

def text : Binary64 → String
  | .finite negative mantissa exponent =>
    let unsigned :=
      if mantissa = 0 then ['0', '.', '0']
      else
        let (digits, power) := shortestDecimal mantissa exponent
        let digits := Nat.toDigits 10 digits
        laidOut layout (Text.trimEnd (· == '0') digits) (power + digits.length)
    String.ofList (if negative then '-' :: unsigned else unsigned)
  | .infinite negative => if negative then "-inf" else "inf"
  | .nan => "nan"

end Binary64

namespace Text

def spanDigits (text : List Char) : List Nat × List Char :=
  ((text.takeWhile Char.isDigit).filterMap asciiDigit?, text.dropWhile Char.isDigit)

def spanSign : List Char → Bool × List Char
  | '-' :: rest => (true, rest)
  | '+' :: rest => (false, rest)
  | text => (false, text)

def exponent? : List Char → Option Int
  | [] => some 0
  | mark :: rest =>
    if mark = 'e' ∨ mark = 'E' then
      let (negative, rest) := spanSign rest
      let (digits, rest) := spanDigits rest
      if digits.isEmpty ∨ ¬rest.isEmpty then none
      else some (if negative then -(digitsValue digits : Int) else digitsValue digits)
    else none

def fraction : List Char → List Nat × List Char
  | '.' :: rest => spanDigits rest
  | text => ([], text)

def magnitude? (negative : Bool) (text : List Char) : Option Binary64 :=
  let name := String.ofList (text.map Char.toLower)
  if name = "inf" ∨ name = "infinity" then some (.infinite negative)
  else if name = "nan" then some .nan
  else
    let (whole, rest) := spanDigits text
    let (part, rest) := fraction rest
    if whole.isEmpty ∧ part.isEmpty then none
    else do
      let exponent ← exponent? rest
      return Binary64.ofDecimal negative (digitsValue (whole ++ part)) (exponent - part.length)

def float? (text : List Char) : Option Binary64 :=
  let (negative, rest) := spanSign text
  magnitude? negative rest

def hasDoubleUnderscore : List Char → Bool
  | '_' :: '_' :: _ => true
  | _ :: rest => hasDoubleUnderscore rest
  | [] => false

def withoutUnderscores? (text : List Char) : Option (List Char) :=
  if text.head? = some '_' ∨ text.getLast? = some '_' ∨ hasDoubleUnderscore text then none
  else some (text.filter (· ≠ '_'))

/-- Blanks around a number are ignored, or else single underscores inside it. -/
def lenientFloat? (text : List Char) : Option Binary64 :=
  match float? (trim isBlank text) with
  | some number => some number
  | none => do
    let plain ← withoutUnderscores? text
    float? plain

end Text

end PtyShell
