import PtyShell.Proofs.FileSystem
import PtyShell.Proofs.Launch.Target

/-! # The path of the shell

A shell is started by an absolute path, unless it was found in a relative directory of the search
path. From every directory the path leads to the file that was checked; where it is the absolute
form of a path with `..`, links may lead it elsewhere. -/

namespace PtyShell

namespace ShellSearch

/-- The directories that a search path lists, in their order. Without one there are two, and an
empty one lists none. -/
inductive SearchPath : Option String → List String → Prop
  | unset : SearchPath none ["/bin", "/usr/bin"]
  | empty : SearchPath (some "") []
  | listed {directories : List String} (some : ":".intercalate directories ≠ "")
      (whole : ∀ directory ∈ directories, ':' ∉ directory.toList) :
      SearchPath (.some (":".intercalate directories)) directories

theorem searchPath_iff {path : Option String} {directories : List String} :
    SearchPath path directories ↔ searchDirectories path = directories := by
  constructor
  · intro lists
    cases lists with
    | unset => rfl
    | empty => rfl
    | listed some whole =>
        have nonempty : directories.map String.toList ≠ [] := by
          rintro none
          rw [List.map_eq_nil_iff.mp none] at some
          exact some rfl
        have apart : ∀ part ∈ directories.map String.toList, ':' ∉ part := by
          intro part member
          obtain ⟨directory, listed, rfl⟩ := List.mem_map.mp member
          exact whole directory listed
        simp only [searchDirectories, if_neg some, String.toList_intercalate]
        rw [Path.splitBy_eq_splitOn, show ":".toList = [':'] from rfl,
          List.splitOn_intercalate ':' apart nonempty, List.map_map]
        simp
  · rintro rfl
    cases path with
    | none => exact .unset
    | some text =>
        by_cases empty : text = ""
        · subst empty
          exact .empty
        · have joined : ":".intercalate (searchDirectories (some text)) = text := by
            apply String.toList_injective
            simp only [searchDirectories, if_neg empty, String.toList_intercalate, List.map_map,
              Path.splitBy_eq_splitOn]
            simp [Function.comp_def]
          have whole : ∀ directory ∈ searchDirectories (some text), ':' ∉ directory.toList := by
            intro directory member
            simp only [searchDirectories, if_neg empty] at member
            obtain ⟨part, held, rfl⟩ := List.mem_map.mp member
            simpa using Path.separator_not_mem held
          have lists := SearchPath.listed (joined.symm ▸ empty) whole
          rwa [joined] at lists

structure Runs (host : Host) (path : String) (entry : Entry) : Prop where
  found : host.stat path = .ok entry
  executable : entry.isExecutable = true
  other : entry.isDirectory = false

theorem isRunnable_iff {host : Host} {path : String} :
    isRunnable host path = true ↔ ∃ entry, Runs host path entry := by
  unfold isRunnable
  rw [Bool.and_eq_true_iff]
  constructor
  · rintro ⟨executable, other⟩
    obtain ⟨entry, found, able⟩ := Host.holds_iff.mp executable
    refine ⟨entry, found, able, ?_⟩
    unfold Host.isDirectory Host.holds at other
    simpa [found] using other
  · rintro ⟨entry, runs⟩
    refine ⟨Host.holds_iff.mpr ⟨entry, runs.found, runs.executable⟩, ?_⟩
    unfold Host.isDirectory Host.holds
    simp [runs.found, runs.other]

theorem not_isRunnable_iff {host : Host} {path : String} :
    isRunnable host path = false ↔ ∀ entry, ¬Runs host path entry := by
  rw [← Bool.not_eq_true, isRunnable_iff, not_exists]

/-- The path that a candidate resolves to. -/
inductive Resolution (host : Host) : String → String → Prop
  /-- A candidate with a separator is the path of a plain file. -/
  | path {name : String} {entry : Entry} (separated : Path.hasSeparator name = true)
      (runs : Runs host name entry) (file : entry.isFile = true) :
      Resolution host name (Path.absolute host.directory name)
  /-- Any other one is looked for in one directory after the other. -/
  | entry {name directory : String} {before after : List String} {entry : Entry}
      (bare : Path.hasSeparator name = false)
      (searched : SearchPath (host.environ.get? "PATH") (before ++ directory :: after))
      (earlier : ∀ other ∈ before, ∀ entry, ¬Runs host (Path.join other name) entry)
      (runs : Runs host (Path.join directory name) entry) :
      Resolution host name (Path.join directory name)

def Searched (host : Host) (directory : String) : Prop :=
  ∃ directories, SearchPath (host.environ.get? "PATH") directories ∧ directory ∈ directories

/-- How a launch comes by the path of its shell. -/
inductive Found (host : Host) (names : List String) : String → Prop
  /-- A candidate with a separator was checked, and its absolute form is taken. -/
  | path {name : String} {entry : Entry} (listed : name ∈ names)
      (separated : Path.hasSeparator name = true) (runs : Runs host name entry) :
      Found host names (Path.absolute host.directory name)
  /-- A name was found in a directory of the search path. -/
  | entry {name directory : String} {entry : Entry} (listed : name ∈ names)
      (bare : Path.hasSeparator name = false) (searched : Searched host directory)
      (runs : Runs host (Path.join directory name) entry) :
      Found host names (Path.join directory name)
  | lastResort (refused : ∀ name ∈ names, ∀ path, ¬Resolution host name path) :
      Found host names "/bin/sh"

/-- The shell was found by its name in a relative directory of the search path. -/
def FoundAside (host : Host) (names : List String) (path : String) : Prop :=
  ∃ name ∈ names, ∃ directory, Searched host directory ∧ Path.hasSeparator name = false ∧
    Path.isAbsolute directory = false ∧ path = Path.join directory name ∧
      ∃ entry, Runs host path entry

section Search

variable {host : Host} {names : List String} {path name : String}

theorem resolve_path (separated : Path.hasSeparator name = true) :
    resolve host name = some path ↔
      path = Path.absolute host.directory name ∧
        ∃ entry, Runs host name entry ∧ entry.isFile = true := by
  unfold resolve
  rw [separated, if_pos rfl]
  constructor
  · intro resolved
    split at resolved
    · next checked =>
        obtain ⟨plain, able⟩ := Bool.and_eq_true_iff.mp checked
        obtain ⟨entry, found, file⟩ := Host.holds_iff.mp plain
        obtain ⟨_, again, executable⟩ := Host.holds_iff.mp able
        cases found.symm.trans again
        -- Nothing is a file and a directory.
        have other : entry.isDirectory = false := by
          cases entry <;> first | rfl | cases file
        exact ⟨(Option.some.inj resolved).symm, entry, ⟨found, executable, other⟩, file⟩
    · cases resolved
  · rintro ⟨rfl, entry, runs, file⟩
    have plain : host.isFile name = true := Host.holds_iff.mpr ⟨entry, runs.found, file⟩
    have able : host.isExecutable name = true :=
      Host.holds_iff.mpr ⟨entry, runs.found, runs.executable⟩
    rw [plain, able]
    rfl

theorem resolve_eq_some : resolve host name = some path ↔ Resolution host name path := by
  constructor
  · intro resolved
    cases separated : Path.hasSeparator name with
    | true =>
        obtain ⟨rfl, entry, runs, file⟩ := (resolve_path separated).mp resolved
        exact .path separated runs file
    | false =>
        unfold resolve at resolved
        rw [separated, if_neg Bool.false_ne_true] at resolved
        unfold findOnPath at resolved
        obtain ⟨runnable, before, after, searched, earlier⟩ :=
          List.find?_eq_some_iff_append.mp resolved
        obtain ⟨first, rest, split, rfl, mapped⟩ := List.map_eq_append_iff.mp searched
        obtain ⟨directory, others, rfl, rfl, rfl⟩ := List.map_eq_cons_iff.mp mapped
        obtain ⟨entry, runs⟩ := isRunnable_iff.mp runnable
        refine .entry separated (searchPath_iff.mpr split) ?_ runs
        intro other member
        have refused := earlier _ (List.mem_map.mpr ⟨other, member, rfl⟩)
        exact not_isRunnable_iff.mp (by simpa using refused)
  · intro resolved
    cases resolved with
    | path separated runs file => exact (resolve_path separated).mpr ⟨rfl, _, runs, file⟩
    | @entry directory before after _ bare searched earlier runs =>
        rw [resolve, bare, if_neg Bool.false_ne_true, findOnPath, List.find?_eq_some_iff_append]
        refine ⟨isRunnable_iff.mpr ⟨_, runs⟩, before.map (Path.join · name),
          after.map (Path.join · name), ?_, ?_⟩
        · rw [searchPath_iff.mp searched, List.map_append, List.map_cons]
        · intro other member
          obtain ⟨tried, listed, rfl⟩ := List.mem_map.mp member
          simpa using not_isRunnable_iff.mpr (earlier tried listed)

theorem resolve_eq_none : resolve host name = none ↔ ∀ path, ¬Resolution host name path := by
  rw [Option.eq_none_iff_forall_ne_some]
  exact forall_congr' fun path => not_congr resolve_eq_some

theorem resolve_found (listed : name ∈ names) (resolved : Resolution host name path) :
    Found host names path := by
  cases resolved with
  | path separated runs file => exact .path listed separated runs
  | @entry directory before after _ bare searched earlier runs =>
      exact .entry listed bare
        ⟨_, searched, List.mem_append_right before List.mem_cons_self⟩ runs

theorem first_found (host : Host) (names : List String) : Found host names (first host names) := by
  unfold first
  cases found : names.findSome? (resolve host) with
  | none =>
      refine .lastResort fun name listed => ?_
      exact resolve_eq_none.mp (List.findSome?_eq_none_iff.mp found name listed)
  | some path =>
      obtain ⟨name, listed, resolved⟩ := List.exists_of_findSome?_eq_some found
      exact resolve_found listed (resolve_eq_some.mp resolved)

theorem isAbsolute_of_bare (bare : Path.hasSeparator name = false) :
    Path.isAbsolute name = false := by
  unfold Path.hasSeparator at bare
  unfold Path.isAbsolute
  cases text : name.toList with
  | nil => rfl
  | cons c rest =>
      rw [text, List.contains_cons, Bool.or_eq_false_iff] at bare
      have other : c ≠ '/' := fun same => by simp [same] at bare
      simpa using other

end Search

/-- What the path of a shell is good for. -/
structure Leads (host : Host) (names : List String) (path : String) : Prop where
  /-- Only a shell from a relative directory of the search path has a relative path. -/
  absolute : Path.isAbsolute path = true ↔ ¬FoundAside host names path
  /-- An absolute path is that of a file that was checked, or its absolute form, if any candidate
  could be run. From whatever directory it is followed it leads to that file, provided that the
  absolute form leaves no `..` out. -/
  checked : Path.isAbsolute path = true → (∃ name ∈ names, ∃ path, Resolution host name path) →
    ∃ checked entry, Runs host checked entry ∧
      (path = checked ∨ path = Path.absolute host.directory checked) ∧
        (host.files.Walks → path = checked ∨ Path.Direct host.directory checked →
          ∀ directory, host.files.find directory path = .ok entry)
  /-- Without one the last resort is taken, unchecked. -/
  unchecked : (∀ name ∈ names, ∀ path, ¬Resolution host name path) → path = "/bin/sh"

section Leading

variable {host : Host} {names : List String} {path : String}

theorem FoundAside.relative (aside : FoundAside host names path) :
    Path.isAbsolute path = false := by
  obtain ⟨name, _, directory, _, bare, relative, rfl, _⟩ := aside
  rw [Path.isAbsolute_join (isAbsolute_of_bare bare), relative]

theorem Found.absolute (anchored : Path.isAbsolute host.directory = true)
    (found : Found host names path) (direct : ¬FoundAside host names path) :
    Path.isAbsolute path = true := by
  cases found with
  | path listed separated runs => exact Path.isAbsolute_absolute anchored _
  | @entry name directory entry listed bare searched runs =>
      rw [Path.isAbsolute_join (isAbsolute_of_bare bare)]
      cases relative : Path.isAbsolute directory with
      | true => rfl
      | false =>
          exact absurd ⟨name, listed, directory, searched, bare, relative, rfl, entry, runs⟩ direct
  | lastResort refused => rfl

theorem Runs.find {entry : Entry} (runs : Runs host path entry) :
    host.files.find host.directory path = .ok entry :=
  (Host.stat_ok.mp runs.found).2

theorem Found.checked (anchored : Path.isAbsolute host.directory = true)
    (found : Found host names path) (absolute : Path.isAbsolute path = true)
    (resolvable : ∃ name ∈ names, ∃ path, Resolution host name path) :
    ∃ checked entry, Runs host checked entry ∧
      (path = checked ∨ path = Path.absolute host.directory checked) ∧
        (host.files.Walks → path = checked ∨ Path.Direct host.directory checked →
          ∀ directory, host.files.find directory path = .ok entry) := by
  cases found with
  | @path name entry listed separated runs =>
      refine ⟨name, entry, runs, .inr rfl, ?_⟩
      rintro walks (same | direct) directory
      · rw [same]
        rw [same] at absolute
        exact walks.find_anywhere absolute runs.find runs.other directory
      · exact walks.find_absolute anchored separated direct runs.find runs.other directory
  | entry listed bare searched runs =>
      exact ⟨_, _, runs, .inl rfl, fun walks _ directory =>
        walks.find_anywhere absolute runs.find runs.other directory⟩
  | lastResort refused =>
      obtain ⟨name, listed, path, resolved⟩ := resolvable
      exact absurd resolved (refused name listed path)

theorem first_leads (anchored : Path.isAbsolute host.directory = true) (names : List String) :
    Leads host names (first host names) where
  absolute := by
    constructor
    · intro absolute aside
      rw [aside.relative] at absolute
      cases absolute
    · exact (first_found host names).absolute anchored
  checked := (first_found host names).checked anchored
  unchecked := by
    intro refused
    have none : names.findSome? (resolve host) = none :=
      List.findSome?_eq_none_iff.mpr fun name listed => resolve_eq_none.mpr (refused name listed)
    unfold first
    rw [none]
    rfl

end Leading

/-- The shell that is found, and the process that is asked for with it. -/
theorem detect_leads {host : Host} (anchored : Path.isAbsolute host.directory = true)
    (base : Option Env) (config : Config) :
    ∃ path records, (detect base config).run host = .ok path (host.recordAll records) ∧
      Leads host (candidates (base.getD host.environ) config) path ∧
        ∀ size text opts after,
          (Launch.Target.shell text opts).Reaches size base config host after →
            ∃ setup, host.Gains after setup ∧
              ∀ wanted, .start wanted ∈ setup → wanted.argv.head? = some path := by
  refine ⟨_, _, detect_run base config host, first_leads anchored _, ?_⟩
  intro size text opts after reached
  obtain ⟨setup, gains, asks⟩ := reached.asks
  refine ⟨setup, gains, ?_⟩
  intro wanted member
  obtain ⟨cwd, _, rfl⟩ := asks wanted member
  rfl

def nestedTree : FileTree :=
  ⟨[("/w/bin", .ok .directory), ("/w/bin/bash", .ok (.file true [] none))]⟩

def nested (path : String) : Host :=
  { Host.plain with
    directory := "/w"
    environ := Env.empty.set "PATH" path
    files := nestedTree.system }

theorem detect_leads_nested :
    Path.isAbsolute (nested "/w/bin").directory = true ∧
      ∃ path records,
        (detect none Config.default).run (nested "/w/bin") =
          .ok path ((nested "/w/bin").recordAll records) ∧
          Leads (nested "/w/bin") (candidates (nested "/w/bin").environ Config.default) path ∧
            path = "/w/bin/bash" ∧ Path.isAbsolute path = true ∧
              (nested "/w/bin").files.Walks := by
  have anchored : Path.isAbsolute (nested "/w/bin").directory = true := by decide
  obtain ⟨path, records, detected, leads, _⟩ := detect_leads anchored none Config.default
  have taken : path = "/w/bin/bash" := by
    rw [detect_run] at detected
    rw [← (EStateM.Result.ok.inj detected).1]
    decide +kernel
  refine ⟨anchored, path, records, detected, leads, taken, ?_, nestedTree.system_walks⟩
  rw [taken]
  decide

/-- In a relative directory of the search path a shell is found below the directory of the program.
Its path is relative, and leads nowhere from where a child may start. -/
theorem detect_relative :
    Path.isAbsolute (nested "bin").directory = true ∧
      (detect none Config.default).run (nested "bin") = .ok "bin/bash" (nested "bin") ∧
        Path.isAbsolute "bin/bash" = false ∧
          (nested "bin").files.find "/w" "bin/bash" = .ok (.file true [] none) ∧
            (nested "bin").files.find "/h" "bin/bash" = .error FileTree.missing :=
  ⟨by decide, rfl, by decide, rfl, rfl⟩

end ShellSearch

end PtyShell
