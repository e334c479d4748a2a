/-!
# Paths

A path is text with separators. Normalizing drops empty and `.` parts and lets `..` take back the
part before it. A path that begins with exactly two separators keeps both.
-/

namespace PtyShell.Path

def splitBy (separator : Char) : List Char → List (List Char)
  | [] => [[]]
  | c :: rest =>
    if c = separator then [] :: splitBy separator rest
    else
      match splitBy separator rest with
      | [] => [[c]]
      | part :: others => (c :: part) :: others

def parts (path : List Char) : List (List Char) :=
  splitBy '/' path

def joinParts (parts : List (List Char)) : List Char :=
  List.intercalate ['/'] parts

def rootWidth (path : List Char) : Nat :=
  match (path.takeWhile (· = '/')).length with
  | 0 => 0
  | 2 => 2
  | _ => 1

def isCurrent (part : List Char) : Bool :=
  part.isEmpty || part == ['.']

def isParent (part : List Char) : Bool :=
  part == ['.', '.']

def follow (rooted : Bool) (followed : List (List Char)) (part : List Char) :
    List (List Char) :=
  if isCurrent part then followed
  else if isParent part then
    match followed with
    | [] => if rooted then [] else [part]
    | last :: others => if isParent last then part :: followed else others
  else part :: followed

def assemble (root : Nat) (parts : List (List Char)) : List Char :=
  let path := List.replicate root '/' ++ joinParts parts
  if path.isEmpty then ['.'] else path

def normalize (path : List Char) : List Char :=
  let root := rootWidth path
  assemble root ((parts path).foldl (follow (root != 0)) []).reverse

def steps (path : List Char) : List (List Char) :=
  (parts path).filter fun part => !isCurrent part

def tidy (path : List Char) : List Char :=
  assemble (rootWidth path) (steps path)

def isAbsolute (path : String) : Bool :=
  path.toList.head? == some '/'

def hasSeparator (path : String) : Bool :=
  path.toList.contains '/'

def join (directory name : String) : String :=
  if isAbsolute name || directory.isEmpty then name
  else if directory.toList.getLast? = some '/' then directory ++ name
  else directory ++ "/" ++ name

def absolute (directory path : String) : String :=
  String.ofList (normalize (join directory path).toList)

/-- Where a path leads: its absolute form with one separator for the root. -/
def location (directory path : String) : String :=
  let found := (absolute directory path).toList
  String.ofList (if rootWidth found = 2 then found.drop 1 else found)

/-- Whether a path asks for a directory, by ending in a separator or in `.` after one. -/
def asksDirectory (path : String) : Bool :=
  match path.toList.reverse with
  | '/' :: _ => true
  | '.' :: '/' :: _ => true
  | _ => false

def hasNul (path : String) : Bool :=
  path.toList.contains (Char.ofNat 0)

end PtyShell.Path
