namespace PtyShell.Text

def padZeros (width : Nat) (digits : List Char) : List Char :=
  List.replicate (width - digits.length) '0' ++ digits

def hexadecimal (width number : Nat) : List Char :=
  padZeros width (Nat.toDigits 16 number)

def bytesHex (bytes : List UInt8) : String :=
  String.ofList (bytes.flatMap fun byte => hexadecimal 2 byte.toNat)

def hexDigit? (c : Char) : Option Nat :=
  if c.isDigit then some (c.toNat - 0x30)
  else if 'a' ≤ c ∧ c ≤ 'f' then some (c.toNat - 0x57)
  else if 'A' ≤ c ∧ c ≤ 'F' then some (c.toNat - 0x37)
  else none

def hexBytes? : List Char → Option (List UInt8)
  | [] => some []
  | [_] => none
  | high :: low :: rest => do
    let high ← hexDigit? high
    let low ← hexDigit? low
    let bytes ← hexBytes? rest
    return UInt8.ofNat (16 * high + low) :: bytes

end PtyShell.Text
