import PtyShell.Text.Hexadecimal
import PtyShell.Text.Printable

namespace PtyShell.Text

def escapedPoint (point : Nat) : List Char :=
  if point < 0x100 then '\\' :: 'x' :: hexadecimal 2 point
  else if point < 0x10000 then '\\' :: 'u' :: hexadecimal 4 point
  else '\\' :: 'U' :: hexadecimal 8 point

def quotedChar (delimiter c : Char) : List Char :=
  if c = delimiter ∨ c = '\\' then ['\\', c]
  else if c = '\t' then ['\\', 't']
  else if c = '\n' then ['\\', 'n']
  else if c = '\r' then ['\\', 'r']
  else if isPrintable c then [c]
  else escapedPoint c.toNat

def delimiterFor (text : List Char) : Char :=
  if '\x27' ∈ text ∧ '"' ∉ text then '"' else '\x27'

def quotedChars (text : List Char) : List Char :=
  let delimiter := delimiterFor text
  delimiter :: (text.flatMap (quotedChar delimiter) ++ [delimiter])

def quoted (text : String) : String :=
  String.ofList (quotedChars text.toList)

end PtyShell.Text
