import PtyShell.FileSystem
import PtyShell.Path

namespace PtyShell

structure FileTree where
  entries : List (String × Except Refusal Entry)

namespace FileTree

def missing : Refusal := (2, "No such file or directory")

def notDirectory : Refusal := (20, "Not a directory")

def entryAt (tree : FileTree) (place : String) : Except Refusal Entry :=
  match tree.entries.find? (·.1 == place) with
  | none => .error missing
  | some (_, found) => found

/-- Without links, a path leads to its normal form. -/
def system (tree : FileTree) : FileSystem where
  find directory path :=
    if path.isEmpty then .error missing
    else
      match tree.entryAt (Path.location directory path) with
      | .error refusal => .error refusal
      | .ok entry =>
        if !entry.isDirectory && Path.asksDirectory path then .error notDirectory else .ok entry

end FileTree

end PtyShell
