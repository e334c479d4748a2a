import PtyShell.FileTree
import PtyShell.Proofs.Path

namespace PtyShell

/-- Seen from a directory, a path leads through some parts from the root. -/
structure Path.Goes (directory path : String) (steps : List (List Char)) : Prop where
  nonempty : path ≠ ""
  rooted : isAbsolute (join directory path) = true
  unasked : asksDirectory path = false
  steps : Path.steps (join directory path).toList = steps

def Path.Direct (directory path : String) : Prop :=
  ∀ part ∈ parts (join directory path).toList, isParent part = false

/-- Paths are followed part by part. Links may lead anywhere, and `..` back from where they led. -/
structure FileSystem.Walks (files : FileSystem) : Prop where
  same {directory other path form : String} {steps : List (List Char)} :
    Path.Goes directory path steps → Path.Goes other form steps →
      files.find directory path = files.find other form
  asked {directory path : String} {entry : Entry} :
    Path.asksDirectory path = true → files.find directory path = .ok entry →
      entry.isDirectory = true

section Walking

variable {directory path : String} {steps : List (List Char)} {files : FileSystem}

theorem Path.Goes.of_isAbsolute (absolute : isAbsolute path = true)
    (unasked : asksDirectory path = false) (directory : String) :
    Goes directory path (Path.steps path.toList) where
  nonempty := by
    rintro rfl
    cases absolute
  rooted := by rw [join_absolute absolute, absolute]
  unasked := unasked
  steps := by rw [join_absolute absolute]

theorem Path.Goes.absolute (goes : Goes directory path steps)
    (anchored : isAbsolute directory = true) (direct : Direct directory path) (some : steps ≠ [])
    (other : String) : Goes other (Path.absolute directory path) steps := by
  have kept : reached (join directory path).toList = steps := by
    rw [reached_direct direct, goes.steps]
  have shown : Path.steps (Path.absolute directory path).toList = steps := by
    have absolute := beq_iff_eq.mp goes.rooted
    rw [Path.absolute, String.toList_ofList, normalize_rooted absolute,
      steps_assemble (rootWidth_rooted absolute) (reached_plain _), kept]
  have unasked := asksDirectory_absolute anchored (kept ▸ some)
  simpa only [shown] using of_isAbsolute (isAbsolute_absolute anchored path) unasked other

namespace FileSystem.Walks

variable {entry : Entry}

theorem unasked (walks : files.Walks) (found : files.find directory path = .ok entry)
    (other : entry.isDirectory = false) : Path.asksDirectory path = false := by
  refine Bool.eq_false_iff.mpr fun asked => ?_
  rw [walks.asked asked found] at other
  cases other

theorem find_anywhere (walks : files.Walks) (absolute : Path.isAbsolute path = true)
    (found : files.find directory path = .ok entry) (other : entry.isDirectory = false)
    (elsewhere : String) : files.find elsewhere path = .ok entry := by
  have unasked := walks.unasked found other
  rw [← found]
  exact walks.same (.of_isAbsolute absolute unasked _) (.of_isAbsolute absolute unasked _)

/-- So does the absolute form of a path with a separator and without `..`. -/
theorem find_absolute (walks : files.Walks) (anchored : Path.isAbsolute directory = true)
    (separated : Path.hasSeparator path = true) (direct : Path.Direct directory path)
    (found : files.find directory path = .ok entry) (other : entry.isDirectory = false)
    (elsewhere : String) : files.find elsewhere (Path.absolute directory path) = .ok entry := by
  have unasked := walks.unasked found other
  have goes : Path.Goes directory path _ := {
    nonempty := by
      rintro rfl
      cases separated
    rooted := Path.join_rooted anchored path
    unasked := unasked
    steps := rfl }
  rw [← found]
  exact (walks.same goes
    (goes.absolute anchored direct (Path.steps_join_ne_nil separated unasked) elsewhere)).symm

end FileSystem.Walks

theorem FileTree.system_walks (tree : FileTree) : tree.system.Walks where
  same := by
    intro directory other path form steps goes again
    have place : Path.location directory path = Path.location other form := by
      rw [Path.location_rooted goes.rooted, Path.location_rooted again.rooted, Path.reached,
        Path.reached, goes.steps, again.steps]
    have finds {directory path : String} (goes : Path.Goes directory path steps) :
        tree.system.find directory path = tree.entryAt (Path.location directory path) := by
      unfold system
      simp only [goes.unasked, Bool.and_false, String.isEmpty_eq_false_iff.mpr goes.nonempty]
      cases tree.entryAt (Path.location directory path) <;> rfl
    rw [finds goes, finds again, place]
  asked := by
    intro directory path entry asked found
    unfold system at found
    simp only [asked, Bool.and_true] at found
    split at found
    · cases found
    · split at found
      · cases found
      · split at found
        · cases found
        · next held =>
            cases found
            simpa using held

end Walking

end PtyShell
