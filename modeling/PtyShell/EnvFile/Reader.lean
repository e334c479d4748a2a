import PtyShell.Text.Blank
import PtyShell.Text.Lines

/-!
# Reading environment files

An environment file is a list of statements, each of which binds a name to a value or names a
variable without one. Values stand in single or double quotes, and may then span lines, or take the
rest of their line. A line that does not fit is skipped.
-/

namespace PtyShell.EnvFile

structure Binding where
  name : String
  value : Option (List Char)
  deriving DecidableEq, Repr

inductive Statement
  | nothing
  | binding (binding : Binding)
  | invalid
  deriving DecidableEq, Repr

abbrev Reading (α : Type) := Except (List Char) (α × List Char)

def isInlineBlank (c : Char) : Bool :=
  Text.isSpacing c && c != '\n' && c != '\r'

def isKeyChar (c : Char) : Bool :=
  c != '=' && c != '#' && !Text.isSpacing c

def exportWord : List Char := ['e', 'x', 'p', 'o', 'r', 't']

/-- Skips the word `export` and the blanks after it; without blanks it is no such word. -/
def skipExport (text : List Char) : List Char :=
  if exportWord.isPrefixOf text then
    let rest := text.drop exportWord.length
    if (rest.head?.map isInlineBlank).getD false then rest.dropWhile isInlineBlank else text
  else text

def readKey (text : List Char) : Reading (Option String) :=
  match text with
  | '#' :: _ => .ok (none, text)
  | '\x27' :: rest =>
    let key := rest.takeWhile (· != '\x27')
    match rest.dropWhile (· != '\x27') with
    | _ :: after => if key.isEmpty then .error text else .ok (some (String.ofList key), after)
    | [] => .error text
  | _ =>
    let key := text.takeWhile isKeyChar
    if key.isEmpty then .error text
    else .ok (some (String.ofList key), text.dropWhile isKeyChar)

/-- The text up to a closing quote, and what follows the quote. A quote behind a backslash closes
only when no later one does. -/
def untilQuote? (quote : Char) : List Char → Option (List Char × List Char)
  | [] => none
  | [c] => if c = quote then some ([], []) else none
  | c :: next :: rest =>
    if c = quote then some ([], next :: rest)
    else if c = '\\' ∧ next = quote then
      match untilQuote? quote rest with
      | some (text, after) => some (c :: next :: text, after)
      | none => some ([c], rest)
    else (untilQuote? quote (next :: rest)).map fun (text, after) => (c :: text, after)

def singleEscape? : Char → Option Char
  | '\\' => some '\\'
  | '\x27' => some '\x27'
  | _ => none

def doubleEscape? : Char → Option Char
  | '\\' => some '\\'
  | '\x27' => some '\x27'
  | '"' => some '"'
  | 'a' => some '\x07'
  | 'b' => some '\x08'
  | 'f' => some '\x0C'
  | 'n' => some '\n'
  | 'r' => some '\r'
  | 't' => some '\t'
  | 'v' => some '\x0B'
  | _ => none

def unescape (escape? : Char → Option Char) : List Char → List Char
  | [] => []
  | [c] => [c]
  | c :: next :: rest =>
    if c = '\\' then
      match escape? next with
      | some decoded => decoded :: unescape escape? rest
      | none => c :: unescape escape? (next :: rest)
    else c :: unescape escape? (next :: rest)

def beforeComment : List Char → List Char
  | [] => []
  | c :: rest =>
    if Text.isSpacing c && (rest.dropWhile Text.isSpacing).head? == some '#' then []
    else c :: beforeComment rest

def isLineEnd (c : Char) : Bool :=
  c == '\n' || c == '\r'

def readValue (spaced : Bool) (text : List Char) : Reading (List Char) :=
  match text with
  | [] => .ok ([], text)
  | c :: rest =>
    if c = '\x27' then
      match untilQuote? c rest with
      | some (value, after) => .ok (unescape singleEscape? value, after)
      | none => .error text
    else if c = '"' then
      match untilQuote? c rest with
      | some (value, after) => .ok (unescape doubleEscape? value, after)
      | none => .error text
    else if isLineEnd c || (spaced && c == '#') then .ok ([], text)
    else
      let line := text.takeWhile fun c => !isLineEnd c
      .ok (Text.trimEnd Text.isSpacing (beforeComment line), text.drop line.length)

def readAssignment (text : List Char) : Reading (Option (List Char)) :=
  match text with
  | '=' :: rest =>
    let after := rest.dropWhile isInlineBlank
    match readValue (after.length != rest.length) after with
    | .ok (value, rest) => .ok (some value, rest)
    | .error rest => .error rest
  | _ => .ok (none, text)

def readLineEnd (text : List Char) : Reading Unit :=
  let rest := text.dropWhile isInlineBlank
  let rest :=
    if rest.head? = some '#' then rest.dropWhile (fun c => !isLineEnd c) else rest
  match rest with
  | [] => .ok ((), [])
  | c :: after => if isLineEnd c then .ok ((), after) else .error rest

def readStatement (text : List Char) : Reading Statement :=
  match readKey (skipExport text) with
  | .error rest => .error rest
  | .ok (key, rest) =>
    match readAssignment (rest.dropWhile isInlineBlank) with
    | .error rest => .error rest
    | .ok (value, rest) =>
      match readLineEnd rest, key with
      | .error rest, _ => .error rest
      | .ok (_, rest), none => .ok (.nothing, rest)
      | .ok (_, rest), some name => .ok (.binding ⟨name, value⟩, rest)

def skipLine (text : List Char) : List Char :=
  (text.dropWhile fun c => !isLineEnd c).drop 1

/-- The statements of a text, each with the line on which the statement before it ended. -/
def readAll (line : Nat) : Nat → List Char → List (Nat × Statement)
  | 0, _ => []
  | fuel + 1, text =>
    let start := text.dropWhile Text.isSpacing
    if start.isEmpty then []
    else
      let (statement, rest) :=
        match readStatement start with
        | .ok (statement, rest) => (statement, rest)
        | .error rest => (Statement.invalid, skipLine rest)
      let passed := text.take (text.length - rest.length)
      (line, statement) :: readAll (line + passed.count '\n') fuel rest

def statements (content : String) : List (Nat × Statement) :=
  let text := Text.unifyNewlines (Text.dropMark content.toList)
  readAll 1 (text.length + 1) text

end PtyShell.EnvFile
