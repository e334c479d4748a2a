import PtyShell.Json.Basic
import PtyShell.Number.Integer
import PtyShell.Text.Lines

/-!
# Reading JSON

The reader accepts one value with blanks around it, and the names NaN, Infinity and -Infinity as
numbers. A text that is no such value is refused at a place, which is kept as the part of the text
that begins there. The digits of an integer and the depth of nested values may be limited.
-/

namespace PtyShell.Json

inductive Complaint
  | value
  | propertyName
  | colon
  | comma
  | unterminated
  | controlCharacter
  | escape
  | unicodeEscape
  | extraData
  | byteOrderMark
  deriving DecidableEq, Repr

inductive Nest
  | array
  | object
  deriving DecidableEq, Repr

inductive ReadFault
  | malformed (complaint : Complaint) (rest : List Char)
  | tooManyDigits (count : Nat)
  | tooDeep (nest : Nest)
  deriving DecidableEq, Repr

abbrev Reading (α : Type) := Except ReadFault (α × List Char)

/-- How many digits an integer may have and how many values may be nested in one another; none
stands for any number of them. -/
structure Limits where
  digits : Option Nat
  depth : Option Nat
  deriving DecidableEq, Repr

def Limits.none : Limits := ⟨Option.none, Option.none⟩

def Limits.refuseDigits (limits : Limits) (count : Nat) : Bool :=
  limits.digits.any (· < count)

def Limits.isExhausted (limits : Limits) : Bool :=
  limits.depth == some 0

def Limits.inside (limits : Limits) : Limits :=
  { limits with depth := limits.depth.map (· - 1) }

def refuse {α : Type} (complaint : Complaint) (rest : List Char) : Except ReadFault α :=
  .error (.malformed complaint rest)

def isGap (c : Char) : Bool :=
  c == ' ' || c == '\t' || c == '\n' || c == '\r'

def skipGap (text : List Char) : List Char :=
  text.dropWhile isGap

def codeUnit? : List Char → Option (Nat × List Char)
  | a :: b :: c :: d :: next :: rest => do
    let a ← Text.hexDigit? a
    let b ← Text.hexDigit? b
    let c ← Text.hexDigit? c
    let d ← Text.hexDigit? d
    return (4096 * a + 256 * b + 16 * c + d, next :: rest)
  | _ => none

def isHighSurrogate (unit : Nat) : Bool := 0xD800 ≤ unit && unit < 0xDC00

def isLowSurrogate (unit : Nat) : Bool := 0xDC00 ≤ unit && unit < 0xE000

def charOfUnit (unit : Nat) : Char :=
  if 0xD800 ≤ unit && unit < 0xE000 then Char.ofNat 0xFFFD else Char.ofNat unit

def unicodeChar (text : List Char) : Reading Char :=
  match codeUnit? (text.drop 1) with
  | none => refuse .unicodeEscape text
  | some (high, rest) =>
    match rest with
    | '\\' :: 'u' :: digits =>
      if isHighSurrogate high && 4 < digits.length then
        match codeUnit? digits with
        | none => refuse .unicodeEscape ('u' :: digits)
        | some (low, after) =>
          if isLowSurrogate low then
            .ok (Char.ofNat (0x10000 + (high - 0xD800) * 0x400 + (low - 0xDC00)), after)
          else .ok (charOfUnit high, rest)
      else .ok (charOfUnit high, rest)
    | _ => .ok (charOfUnit high, rest)

def shortEscape? : Char → Option Char
  | '"' => some '"'
  | '\\' => some '\\'
  | '/' => some '/'
  | 'b' => some '\x08'
  | 'f' => some '\x0C'
  | 'n' => some '\n'
  | 'r' => some '\r'
  | 't' => some '\t'
  | _ => none

/-- The rest of a string; `opening` is the text from its opening quote on, `read` what was read of
the string so far, last character first. -/
def readString (opening : List Char) (read : List Char) : Nat → List Char → Reading String
  | 0, _ => refuse .unterminated opening
  | fuel + 1, text =>
    match text with
    | [] => refuse .unterminated opening
    | c :: rest =>
      if c = '"' then .ok (String.ofList read.reverse, rest)
      else if c = '\\' then
        match rest with
        | [] => refuse .unterminated opening
        | mark :: after =>
          if mark = 'u' then
            match unicodeChar rest with
            | .error fault => .error fault
            | .ok (decoded, after) => readString opening (decoded :: read) fuel after
          else
            match shortEscape? mark with
            | none => refuse .escape text
            | some decoded => readString opening (decoded :: read) fuel after
      else if c.toNat < 0x20 then refuse .controlCharacter text
      else readString opening (c :: read) fuel rest

/-- The digits before the point of a number: a lone zero, or a run that does not start with one. -/
def wholePart? : List Char → Option (List Nat × List Char)
  | '0' :: rest => some ([0], rest)
  | text =>
    let (digits, rest) := Text.spanDigits text
    if digits.isEmpty then none else some (digits, rest)

def fractionPart (text : List Char) : List Nat × List Char :=
  match text with
  | '.' :: rest =>
    let (digits, after) := Text.spanDigits rest
    if digits.isEmpty then ([], text) else (digits, after)
  | _ => ([], text)

def exponentPart? : List Char → Option (Int × List Char)
  | [] => none
  | mark :: rest =>
    if mark = 'e' ∨ mark = 'E' then
      let (negative, rest) := Text.spanSign rest
      let (digits, rest) := Text.spanDigits rest
      if digits.isEmpty then none
      else some (Text.signed negative (Text.digitsValue digits), rest)
    else none

def readMagnitude (limits : Limits) (start : List Char) (negative : Bool) (text : List Char) :
    Reading Json :=
  match wholePart? text with
  | none => refuse .value start
  | some (whole, rest) =>
    let (fraction, rest) := fractionPart rest
    match exponentPart? rest with
    | some (exponent, rest) =>
      let digits := Text.digitsValue (whole ++ fraction)
      .ok (.float (Binary64.ofDecimal negative digits (exponent - fraction.length)), rest)
    | none =>
      if ¬fraction.isEmpty then
        let digits := Text.digitsValue (whole ++ fraction)
        .ok (.float (Binary64.ofDecimal negative digits (-fraction.length)), rest)
      else if limits.refuseDigits whole.length then .error (.tooManyDigits whole.length)
      else .ok (.int (Text.signed negative (Text.digitsValue whole)), rest)

def readNumber (limits : Limits) (text : List Char) : Reading Json :=
  match text with
  | '-' :: rest => readMagnitude limits text true rest
  | _ => readMagnitude limits text false text

def afterWord? : List Char → List Char → Option (List Char)
  | [], text => some text
  | _ :: _, [] => none
  | w :: word, c :: text => if w = c then afterWord? word text else none

def words : List (String × Json) := [
  ("null", .null), ("true", .bool true), ("false", .bool false), ("NaN", .float .nan),
  ("Infinity", .float (.infinite false)), ("-Infinity", .float (.infinite true))]

def readWord? (text : List Char) : Option (Json × List Char) :=
  words.findSome? fun (word, value) => (afterWord? word.toList text).map (value, ·)

mutual

def readValue (limits : Limits) : Nat → List Char → Reading Json
  | 0, text => refuse .value text
  | _ + 1, [] => refuse .value []
  | fuel + 1, c :: rest =>
    if c = '"' then
      match readString (c :: rest) [] (rest.length + 1) rest with
      | .error fault => .error fault
      | .ok (value, rest) => .ok (.str value, rest)
    else if c = '[' then
      let inner := skipGap rest
      if limits.isExhausted then .error (.tooDeep .array)
      else if inner.head? = some ']' then .ok (.arr [], inner.drop 1)
      else
        match readItems limits.inside fuel inner with
        | .error fault => .error fault
        | .ok (items, rest) => .ok (.arr items, rest)
    else if c = '\x7B' then
      let inner := skipGap rest
      if limits.isExhausted then .error (.tooDeep .object)
      else if inner.head? = some '\x7D' then .ok (.obj [], inner.drop 1)
      else
        match readMembers limits.inside [] fuel inner with
        | .error fault => .error fault
        | .ok (members, rest) => .ok (.obj members, rest)
    else
      match readWord? (c :: rest) with
      | some reading => .ok reading
      | none => readNumber limits (c :: rest)

def readItems (limits : Limits) : Nat → List Char → Reading (List Json)
  | 0, text => refuse .value text
  | fuel + 1, text =>
    match readValue limits fuel text with
    | .error fault => .error fault
    | .ok (item, rest) =>
      let rest := skipGap rest
      match rest with
      | [] => refuse .comma rest
      | c :: after =>
        if c = ']' then .ok ([item], after)
        else if c = ',' then
          match readItems limits fuel (skipGap after) with
          | .error fault => .error fault
          | .ok (items, rest) => .ok (item :: items, rest)
        else refuse .comma rest

def readMembers (limits : Limits) (read : List (String × Json)) :
    Nat → List Char → Reading (List (String × Json))
  | 0, text => refuse .value text
  | fuel + 1, text =>
    match text with
    | '"' :: name =>
      match readString text [] (name.length + 1) name with
      | .error fault => .error fault
      | .ok (name, rest) =>
        let rest := skipGap rest
        match rest with
        | ':' :: after =>
          match readValue limits fuel (skipGap after) with
          | .error fault => .error fault
          | .ok (value, rest) =>
            let read := setMember name value read
            let rest := skipGap rest
            match rest with
            | [] => refuse .comma rest
            | c :: after =>
              if c = '\x7D' then .ok (read, after)
              else if c = ',' then readMembers limits read fuel (skipGap after)
              else refuse .comma rest
        | _ => refuse .colon rest
    | _ => refuse .propertyName text

end

def parseWithin (limits : Limits) (text : List Char) : Except ReadFault Json :=
  if text.head?.map Char.toNat = some 0xFEFF then refuse .byteOrderMark text
  else
    match readValue limits (2 * text.length + 2) (skipGap text) with
    | .error fault => .error fault
    | .ok (value, rest) =>
      let rest := skipGap rest
      if rest.isEmpty then .ok value else refuse .extraData rest

def parse : List Char → Except ReadFault Json :=
  parseWithin .none

def Nest.message (nest : Nest) : String :=
  "maximum recursion depth exceeded while decoding a JSON " ++
    (match nest with
      | .array => "array"
      | .object => "object") ++ " from a unicode string"

def Complaint.text : Complaint → String
  | .value => "Expecting value"
  | .propertyName => "Expecting property name enclosed in double quotes"
  | .colon => "Expecting ':' delimiter"
  | .comma => "Expecting ',' delimiter"
  | .unterminated => "Unterminated string starting at"
  | .controlCharacter => "Invalid control character at"
  | .escape => "Invalid \\escape"
  | .unicodeEscape => "Invalid \\uXXXX escape"
  | .extraData => "Extra data"
  | .byteOrderMark => "Unexpected UTF-8 BOM (decode using utf-8-sig)"

def Complaint.at (complaint : Complaint) (text rest : List Char) : String :=
  let before := text.take (text.length - rest.length)
  complaint.text ++ ": line " ++ toString (Text.lineAfter before) ++ " column " ++
    toString (Text.columnAfter before) ++ " (char " ++ toString before.length ++ ")"

end PtyShell.Json
