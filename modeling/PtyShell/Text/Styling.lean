namespace PtyShell.Text

def isParameter (c : Char) : Bool :=
  c == ';' || c == '?' || c.isDigit

/-- The length of the command that an escape character begins, which itself is not counted. -/
def commandLength? : List Char → Option Nat
  | '[' :: rest =>
    let parameters := rest.takeWhile isParameter
    match rest.drop parameters.length with
    | [] => none
    | letter :: _ => if letter.isAlpha then some (parameters.length + 2) else none
  | _ => none

def dropCommands : Nat → List Char → List Char
  | _, [] => []
  | skipped + 1, _ :: rest => dropCommands skipped rest
  | 0, c :: rest =>
    match if c = '\x1B' then commandLength? rest else none with
    | some length => dropCommands length rest
    | none => c :: dropCommands 0 rest

def unstyled (text : String) : String :=
  String.ofList (dropCommands 0 text.toList)

end PtyShell.Text
