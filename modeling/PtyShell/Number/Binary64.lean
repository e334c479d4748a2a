namespace PtyShell

inductive Binary64
  | finite (negative : Bool) (mantissa : Nat) (exponent : Int)
  | infinite (negative : Bool)
  | nan
  deriving DecidableEq, Repr

namespace Binary64

def twoTo (exponent : Nat) : Nat := Nat.pow 2 exponent

def tenTo (exponent : Nat) : Nat := Nat.pow 10 exponent

def leastExponent : Int := -1074

def greatestExponent : Int := 971

def signedZero (negative : Bool) : Binary64 := .finite negative 0 leastExponent

def scaledQuotient (numerator denominator : Nat) (exponent : Int) : Nat :=
  let dividend := numerator * twoTo (-exponent).toNat
  let divisor := denominator * twoTo exponent.toNat
  let quotient := dividend / divisor
  let twice := 2 * (dividend % divisor)
  if twice < divisor then quotient
  else if divisor < twice then quotient + 1
  else quotient + quotient % 2

def magnitude (numerator denominator : Nat) : Int :=
  let guess : Int := (numerator.log2 : Int) - denominator.log2
  if denominator * twoTo guess.toNat ≤ numerator * twoTo (-guess).toNat then guess else guess - 1

def ofRatio (negative : Bool) (numerator denominator : Nat) : Binary64 :=
  if numerator = 0 then signedZero negative
  else
    let exponent := max (magnitude numerator denominator - 52) leastExponent
    let mantissa := scaledQuotient numerator denominator exponent
    let carries := mantissa = twoTo 53
    let exponent := if carries then exponent + 1 else exponent
    if greatestExponent < exponent then .infinite negative
    else .finite negative (if carries then twoTo 52 else mantissa) exponent

def decimalLength (number : Nat) : Nat :=
  (Nat.toDigits 10 number).length

/-- `digits * 10 ^ exponent`; exponents far outside the range are settled without computing them. -/
def ofDecimal (negative : Bool) (digits : Nat) (exponent : Int) : Binary64 :=
  if digits = 0 then signedZero negative
  else
    let point := exponent + decimalLength digits
    if 310 < point then .infinite negative
    else if point < -330 then signedZero negative
    else ofRatio negative (digits * tenTo exponent.toNat) (tenTo (-exponent).toNat)

def toInt? : Binary64 → Option Int
  | .finite negative mantissa exponent =>
    let divisor := twoTo (-exponent).toNat
    if mantissa % divisor = 0 then
      let size : Int := ((mantissa * twoTo exponent.toNat / divisor : Nat) : Int)
      some (if negative then -size else size)
    else none
  | _ => none

def wholeSize? : Binary64 → Option Nat
  | .finite _ mantissa exponent =>
    some (mantissa * twoTo exponent.toNat / twoTo (-exponent).toNat)
  | _ => none

def isFinite : Binary64 → Bool
  | .finite _ _ _ => true
  | _ => false

def timesNat (number : Binary64) (factor : Nat) : Binary64 :=
  match number with
  | .finite negative mantissa exponent =>
    ofRatio negative (mantissa * factor * twoTo exponent.toNat) (twoTo (-exponent).toNat)
  | other => other

end Binary64

end PtyShell
