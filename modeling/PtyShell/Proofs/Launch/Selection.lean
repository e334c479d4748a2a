import PtyShell.Proofs.Launch.ShellPath

namespace PtyShell

structure Text.Stripped (text stripped : List Char) : Prop where
  around : ∃ before after, text = before ++ stripped ++ after ∧
    ∀ c ∈ before ++ after, isSpacing c = true
  first : ∀ c, stripped.head? = some c → isSpacing c = false
  last : ∀ c, stripped.getLast? = some c → isSpacing c = false

namespace Text

theorem head?_dropWhile (text : List Char) {c : Char}
    (first : (text.dropWhile isSpacing).head? = some c) : isSpacing c = false := by
  have stops := List.head?_dropWhile_not isSpacing text
  rw [first] at stops
  exact stops

theorem trimEnd_append (text : List Char) :
    trimEnd isSpacing text ++ (text.reverse.takeWhile isSpacing).reverse = text := by
  unfold trimEnd
  rw [← List.reverse_append, List.takeWhile_append_dropWhile, List.reverse_reverse]

theorem trim_stripped (text : List Char) : Stripped text (trim isSpacing text) where
  around := by
    refine ⟨text.takeWhile isSpacing,
      ((text.dropWhile isSpacing).reverse.takeWhile isSpacing).reverse, ?_, ?_⟩
    · rw [trim, trimStart, List.append_assoc, trimEnd_append, List.takeWhile_append_dropWhile]
    · intro c member
      rcases List.mem_append.mp member with before | after
      · exact List.all_eq_true.mp List.all_takeWhile c before
      · exact List.all_eq_true.mp List.all_takeWhile c (List.mem_reverse.mp after)
  first := by
    intro c first
    -- What was cut off at the end does not matter for the start.
    apply head?_dropWhile text
    rw [← trimEnd_append (text.dropWhile isSpacing), List.head?_append]
    exact Option.or_eq_some_iff.mpr (.inl first)
  last := by
    intro c last
    apply head?_dropWhile (trimStart isSpacing text).reverse
    rwa [trim, trimEnd, List.getLast?_reverse] at last

end Text

namespace ShellSearch

/-- The names that are tried: the configured shell and the one that the environment names, stripped,
if they are not empty, and then those that are known. -/
def Lists (base : Env) (config : Config) (names : List String) : Prop :=
  ∃ named, Text.Stripped (base.getD "SHELL").toList named ∧
    names = (config.shell.toList ++ [String.ofList named]).filter (· ≠ "") ++ ["bash", "zsh", "sh"]

/-- The path that a search among some names takes, and the names that it refuses before. -/
inductive Selects (host : Host) (names : List String) : String → List String → Prop
  | candidate {refused others : List String} {name path : String}
      (listed : names = refused ++ name :: others)
      (earlier : ∀ other ∈ refused, ∀ path, ¬Resolution host other path)
      (resolved : Resolution host name path) : Selects host names path refused
  | lastResort (refused : ∀ name ∈ names, ∀ path, ¬Resolution host name path) :
      Selects host names "/bin/sh" names

/-- What a candidate names can be run. It is a plain file if the candidate is a path, and the
absolute form of that path leads to it unless it leaves a `..` out. -/
def Names (host : Host) (name path : String) : Prop :=
  ∃ entry, entry.isExecutable = true ∧ entry.isDirectory = false ∧
    (Path.hasSeparator name = false → host.stat path = .ok entry) ∧
      (Path.hasSeparator name = true → entry.isFile = true ∧ host.stat name = .ok entry ∧
        (Path.isAbsolute host.directory = true → host.files.Walks →
          Path.Direct host.directory name →
            host.files.find host.directory path = .ok entry))

section Selecting

variable {host : Host} {name path : String}

theorem candidates_listed (base : Env) (config : Config) :
    Lists base config (candidates base config) := by
  refine ⟨_, Text.trim_stripped _, ?_⟩
  have kept (text : String) : unlessEmpty text = [text].filter (· ≠ "") := by
    by_cases empty : text = "" <;> simp [unlessEmpty, empty]
  have configured : unlessEmpty (config.shell.getD "") = config.shell.toList.filter (· ≠ "") := by
    cases config.shell with
    | none => rfl
    | some shell => exact kept shell
  rw [candidates, configured, kept, List.filter_append]
  rfl

theorem Resolution.names (resolved : Resolution host name path) : Names host name path := by
  cases resolved with
  | @path entry separated runs file =>
      refine ⟨entry, runs.executable, runs.other, ?_, fun _ => ⟨file, runs.found, ?_⟩⟩
      · intro bare
        cases separated.symm.trans bare
      · intro anchored walks direct
        exact walks.find_absolute anchored separated direct runs.find runs.other _
  | @entry directory before after entry bare searched earlier runs =>
      refine ⟨entry, runs.executable, runs.other, fun _ => runs.found, ?_⟩
      intro separated
      cases separated.symm.trans bare

theorem Selects.cons {names refused : List String} (selects : Selects host names path refused)
    (unresolved : ∀ path, ¬Resolution host name path) :
    Selects host (name :: names) path (name :: refused) := by
  cases selects with
  | candidate listed earlier resolved =>
      refine .candidate (congrArg (name :: ·) listed) ?_ resolved
      intro other member
      rcases List.mem_cons.mp member with rfl | later
      · exact unresolved
      · exact earlier other later
  | lastResort refused =>
      refine .lastResort ?_
      intro other member
      rcases List.mem_cons.mp member with rfl | later
      · exact unresolved
      · exact refused other later

/-- The refused candidates are those before the first one that resolves. -/
theorem first_selects (host : Host) (names : List String) :
    Selects host names (first host names)
      (names.takeWhile fun name => (resolve host name).isNone) := by
  induction names with
  | nil => exact .lastResort fun _ member => absurd member List.not_mem_nil
  | cons name names ih =>
      cases resolved : resolve host name with
      | some path =>
          have found : first host (name :: names) = path := by
            rw [first, List.findSome?_cons, resolved]
            rfl
          rw [found, List.takeWhile_cons_of_neg (by simp [resolved])]
          exact .candidate rfl (fun _ member => absurd member List.not_mem_nil)
            (resolve_eq_some.mp resolved)
      | none =>
          have later : first host (name :: names) = first host names := by
            rw [first, List.findSome?_cons, resolved]
            rfl
          rw [later, List.takeWhile_cons_of_pos (by simp [resolved])]
          exact ih.cons (resolve_eq_none.mp resolved)

end Selecting

/-- Looking for a shell takes the first candidate that resolves, or the last resort, and leaves one
record of each candidate before it and nothing else. -/
theorem detect_selects (base : Option Env) (config : Config) (host : Host) :
    ∃ names path refused, Lists (base.getD host.environ) config names ∧
      Selects host names path refused ∧
        (detect base config).run host = .ok path
          (host.recordAll (refused.map fun name => .log .debug .shellSearch (rejection name))) ∧
          ∀ name, Resolution host name path → Names host name path :=
  ⟨_, _, _, candidates_listed _ config, first_selects host _, detect_run base config host,
    fun _ resolved => resolved.names⟩

def unset : Host :=
  { Host.plain with
    files := FileTree.system
      ⟨[("/bin", .ok .directory), ("/bin/bash", .ok (.file true [] none))]⟩ }

def linked : FileSystem where
  find directory path :=
    if Path.asksDirectory path then .error FileTree.notDirectory
    else if Path.steps (Path.join directory path).toList = Path.steps "/d/link/../sh".toList then
      .ok (.file true [] none)
    else .error FileTree.missing

theorem linked_walks : linked.Walks where
  same := by
    intro directory other path form steps goes again
    unfold linked
    simp only [goes.unasked, again.unasked, goes.steps, again.steps]
  asked := by
    intro directory path entry asked found
    unfold linked at found
    simp only [asked] at found
    cases found

def linkedHost : Host :=
  { Host.plain with
    environ := Env.empty.set "SHELL" "/d/link/../sh"
    files := linked }

/-- Without a search path two directories are searched, and the absolute form of a path with `..`
may lead to nothing. -/
theorem detect_unset_linked :
    (unset.environ.get? "PATH" = none ∧
      (detect none Config.default).run unset = .ok "/bin/bash" unset) ∧
      (linkedHost.files.Walks ∧
        (detect none Config.default).run linkedHost = .ok "/d/sh" linkedHost ∧
          linkedHost.stat "/d/sh" =
            .error (.system 2 "No such file or directory" (some "/d/sh"))) :=
  ⟨⟨rfl, rfl⟩, linked_walks, rfl, rfl⟩

end ShellSearch

end PtyShell
