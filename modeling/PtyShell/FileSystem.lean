/-!
# File systems

What a working directory and a path lead to. Nothing is assumed about it: links, mounts and
permissions may lead a path anywhere, and looking may fail.
-/

namespace PtyShell

abbrev Refusal := Int × String

inductive Entry
  | directory
  /-- A file, and why it cannot be opened, if it cannot. -/
  | file (executable : Bool) (content : List UInt8) (refusal : Option Refusal)
  /-- Neither a directory nor a plain file. -/
  | special (executable : Bool)
  deriving DecidableEq, Repr

namespace Entry

def isDirectory : Entry → Bool
  | .directory => true
  | _ => false

def isFile : Entry → Bool
  | .file .. => true
  | _ => false

def isExecutable : Entry → Bool
  | .directory => true
  | .file executable _ _ | .special executable => executable

end Entry

structure FileSystem where
  find : (directory path : String) → Except Refusal Entry

end PtyShell
