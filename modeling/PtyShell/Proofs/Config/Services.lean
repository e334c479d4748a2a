import PtyShell.Config.Load
import PtyShell.Proofs.Env
import PtyShell.Proofs.Host
import PtyShell.Proofs.Json

/-! # What loading a configuration relies on

The variables of the environment file are added, and values are validated, by services that are only
known by what they promise. A configuration file may be refused for the limits of its reader. -/

namespace PtyShell

namespace Config

section Variables

/-- A step changes nothing of a host but its environment and its trace. -/
def OnlyEnvironment (load : Sys Unit) (host : Host) : Prop :=
  load.leaves host =
    { host with environ := (load.leaves host).environ, trace := (load.leaves host).trace }

/-- A step sets nothing but missing variables that the environment file names. -/
structure AddsMissing (load : Sys Unit) (named : String → String → Prop) (host : Host) : Prop where
  only : OnlyEnvironment load host
  sets : ∃ entries, (load.leaves host).environ = host.environ.setAll entries ∧
    ∀ name ∈ entries.map Prod.fst, named host.dotenv name ∧ host.environ.get? name = none

/-- A step sets exactly the missing variables that the environment file names. -/
structure SetsMissing (load : Sys Unit) (named : String → String → Prop) (host : Host) : Prop where
  completes : load.run host = .ok () (load.leaves host)
  only : OnlyEnvironment load host
  sets : ∃ entries, (load.leaves host).environ = host.environ.setAll entries ∧
    ∀ name, name ∈ entries.map Prod.fst ↔
      named host.dotenv name ∧ host.environ.get? name = none

structure Extends (named : String → String → Prop) (host after : Host) : Prop where
  keeps : ∀ name value, host.environ.get? name = some value →
    after.environ.get? name = some value
  adds : ∀ name, after.environ.get? name ≠ none →
    host.environ.get? name ≠ none ∨ named host.dotenv name

variable {load : Sys Unit} {named : String → String → Prop} {host : Host}

theorem SetsMissing.adds (sets : SetsMissing load named host) : AddsMissing load named host where
  only := sets.only
  sets := by
    obtain ⟨entries, left, exact⟩ := sets.sets
    exact ⟨entries, left, fun name => (exact name).mp⟩

theorem AddsMissing.extends (adds : AddsMissing load named host) :
    Extends named host (load.leaves host) := by
  obtain ⟨entries, left, missing⟩ := adds.sets
  constructor
  · intro name value held
    have unlisted : name ∉ entries.map Prod.fst := by
      intro listed
      rw [(missing name listed).2] at held
      cases held
    rw [left, Env.get?_setAll_of_not_mem unlisted, held]
  · intro name held
    rw [left, Env.get?_setAll_ne_none] at held
    exact held.imp_right fun listed => (missing name listed).1

theorem SetsMissing.covers (sets : SetsMissing load named host) {name : String}
    (listed : named host.dotenv name) : (load.leaves host).environ.get? name ≠ none := by
  obtain ⟨entries, left, exact⟩ := sets.sets
  rw [left, Env.get?_setAll_ne_none]
  by_cases missing : host.environ.get? name = none
  · exact .inr ((exact name).mpr ⟨listed, missing⟩)
  · exact .inl missing

theorem SetsMissing.steady (sets : SetsMissing load named host)
    (covered : ∀ name, named host.dotenv name → host.environ.get? name ≠ none) :
    (load.leaves host).environ = host.environ := by
  obtain ⟨entries, left, exact⟩ := sets.sets
  have none : entries = [] := by
    cases entries with
    | nil => rfl
    | cons entry others =>
        obtain ⟨listed, missing⟩ := (exact entry.1).mp List.mem_cons_self
        exact absurd missing (covered _ listed)
  rw [left, none]
  rfl

end Variables

section Validation

def IsObject (value : Json) : Prop :=
  ∃ members, value = .obj members

/-- A file whose terminal settings, if it has any, are an object. -/
def HasTerm (file : Members) : Prop :=
  ∀ value, Json.member? file "term" = some value → IsObject value

def termMembers (file : Members) : Members :=
  match Json.member? file "term" with
  | some (.obj members) => members
  | _ => []

theorem termMembers_noObject {file : Members} {value : Json}
    (held : Json.member? file "term" = some value) (noObject : ¬IsObject value) :
    termMembers file = [] := by
  unfold termMembers
  rw [held]
  cases value with
  | obj members => exact absurd ⟨members, rfl⟩ noObject
  | _ => rfl

/-- Lax validation of the types that settings have. Values of a type are taken as they are, and
which others are is left open. -/
structure LaxTypes where
  integer : Json → Except ProblemKind Int
  text : Json → Except ProblemKind String
  integer_int (value : Int) : integer (.int value) = .ok value
  text_str (value : String) : text (.str value) = .ok value

def LaxTypes.optionalText (types : LaxTypes) : Json → Except ProblemKind (Option String)
  | .null => .ok none
  | value => (types.text value).map some

theorem LaxTypes.optionalText_textJson (types : LaxTypes) (text : Option String) :
    types.optionalText (textJson text) = .ok text := by
  cases text with
  | none => rfl
  | some text =>
      show (types.text (.str text)).map some = _
      rw [types.text_str]
      rfl

structure Verdicts where
  rows : Except ProblemKind Int
  cols : Except ProblemKind Int
  termType : Except ProblemKind String
  shell : Except ProblemKind (Option String)
  lang : Except ProblemKind String

def kind? {α : Type} : Except ProblemKind α → Option ProblemKind
  | .ok _ => none
  | .error kind => some kind

def problemsAt (place : List Locator) (kind : Option ProblemKind) : List Problem :=
  (kind.map fun kind => ⟨kind, place⟩).toList

theorem problemsAt_under (step : Locator) (place : List Locator) (kind : Option ProblemKind) :
    (problemsAt place kind).map (Problem.under step) = problemsAt (step :: place) kind := by
  cases kind <;> rfl

theorem ok_of_kind {α : Type} {verdict : Except ProblemKind α} (none : kind? verdict = none) :
    ∃ value, verdict = .ok value := by
  cases verdict with
  | ok value => exact ⟨value, rfl⟩
  | error kind => cases none

namespace Verdicts

/-- Every setting was found valid, and the configuration has what was found. -/
structure Gives (found : Verdicts) (config : Config) : Prop where
  rows : found.rows = .ok config.term.rows
  cols : found.cols = .ok config.term.cols
  termType : found.termType = .ok config.term.termType
  shell : found.shell = .ok config.shell
  lang : found.lang = .ok config.lang

def places (found : Verdicts) : List (List Locator × Option ProblemKind) :=
  [([.key "term", .key "rows"], kind? found.rows), ([.key "term", .key "cols"], kind? found.cols),
    ([.key "term", .key "term_type"], kind? found.termType), ([.key "shell"], kind? found.shell),
    ([.key "lang"], kind? found.lang)]

/-- One problem for each setting that is not valid. -/
def problems (found : Verdicts) : List Problem :=
  found.places.flatMap fun place => problemsAt place.1 place.2

theorem gives_of_problems {found : Verdicts} (none : found.problems = []) :
    ∃ config, found.Gives config := by
  have clean : ∀ place ∈ found.places, place.2 = .none := by
    intro place member
    have nothing := List.flatMap_eq_nil_iff.mp none place member
    exact Option.map_eq_none_iff.mp (Option.toList_eq_nil_iff.mp nothing)
  unfold places at clean
  simp only [List.forall_mem_cons] at clean
  obtain ⟨rows, cols, termType, shell, lang, _⟩ := clean
  obtain ⟨rows, foundRows⟩ := ok_of_kind rows
  obtain ⟨cols, foundCols⟩ := ok_of_kind cols
  obtain ⟨termType, foundType⟩ := ok_of_kind termType
  obtain ⟨shell, foundShell⟩ := ok_of_kind shell
  obtain ⟨lang, foundLang⟩ := ok_of_kind lang
  exact ⟨⟨⟨rows, cols, termType⟩, shell, lang⟩, foundRows, foundCols, foundType, foundShell,
    foundLang⟩

end Verdicts

def field {α : Type} (members : Members) (name : String) (default : α)
    (check : Json → Except ProblemKind α) : Except ProblemKind α :=
  match Json.member? members name with
  | none => .ok default
  | some value => check value

def LaxTypes.verdicts (types : LaxTypes) (members : Members) : Verdicts where
  rows := field (termMembers members) "rows" 24 types.integer
  cols := field (termMembers members) "cols" 80 types.integer
  termType := field (termMembers members) "term_type" "xterm-256color" types.text
  shell := field members "shell" none types.optionalText
  lang := field members "lang" "en_US.UTF-8" types.text

/-- Objects are validated setting by setting, and all that is wrong is reported in the order of the
declaration. Terminal settings that are no object are wrong as a whole. -/
structure IsLax (types : LaxTypes) (validate : Json → Except Fault Config) : Prop where
  accepts {members : Members} {config : Config} : HasTerm members →
    (types.verdicts members).Gives config → validate (.obj members) = .ok config
  rejects {members : Members} : HasTerm members → (types.verdicts members).problems ≠ [] →
    validate (.obj members) = .error (.badModel .config (types.verdicts members).problems)
  noObject {members : Members} {term : Json} : Json.member? members "term" = some term →
    ¬IsObject term → validate (.obj members) =
      .error (.badModel .config (⟨.modelType, [.key "term"]⟩ :: (types.verdicts members).problems))

end Validation

section Reading

/-- The value that a configuration file holds; no members when there is no such file. -/
inductive Holds (host : Host) (path : Option String) : Json → Prop
  | absent (none : path.getD "" = "" ∨ host.exists? (path.getD "") = false) :
      Holds host path (.obj [])
  | content {content : List UInt8} {text : List Char} {value : Json}
      (named : path.getD "" ≠ "") (present : host.exists? (path.getD "") = true)
      (opened : host.readFile (path.getD "") = .ok content)
      (decoded : Text.Utf8.decode content = .ok text)
      (written : Json.parse (Text.unifyNewlines text) = .ok value) : Holds host path value

/-- The faults of a file that is refused for the limits of its reader alone. -/
inductive ExceedsLimits : Fault → Prop
  | digits {count : Nat} (many : Text.digitLimit < count) : ExceedsLimits (.tooManyDigits count)
  | depth (nest : Json.Nest) : ExceedsLimits (.nestedTooDeep nest)

variable {host : Host} {path : Option String} {value : Json}

theorem fileValue_content {content : List UInt8} (named : path.getD "" ≠ "")
    (present : host.exists? (path.getD "") = true)
    (opened : host.readFile (path.getD "") = .ok content) :
    fileValue host path = decode (limits host) content := by
  unfold fileValue
  rw [if_pos ⟨named, present⟩, opened]
  rfl

/-- What a file holds is read from it, unless that exceeds the limits. -/
theorem Holds.fileValue (holds : Holds host path value) :
    fileValue host path = .ok value ∨
      ∃ fault, fileValue host path = .error fault ∧ ExceedsLimits fault := by
  cases holds with
  | absent none =>
      left
      unfold Config.fileValue
      apply if_neg
      rintro ⟨named, present⟩
      rcases none with unnamed | missing
      · exact named unnamed
      · rw [missing] at present
        cases present
  | @content content text value named present opened decoded written =>
      rw [fileValue_content named present opened]
      unfold decode
      simp only [decoded]
      rcases Json.parseWithin_follows (limits host) (Text.unifyNewlines text) with
        same | ⟨fault, failed, refuses⟩
      · rw [same, written]
        exact .inl rfl
      · rw [failed]
        right
        cases refuses with
        | digits refused =>
            refine ⟨_, rfl, .digits ?_⟩
            simpa [limits, Json.Limits.refuseDigits] using refused
        | depth nest limited => exact ⟨_, rfl, .depth nest⟩

theorem fileValue_same {after : Host}
    (same : after = { host with environ := after.environ, trace := after.trace })
    (path : Option String) : fileValue after path = fileValue host path := by
  rw [same]
  rfl

end Reading

section Loading

variable {services : Services} {path : Option String} {host after : Host}

theorem loadWith_leaves (services : Services) (path : Option String) (host : Host) :
    (loadWith services path).leaves host = services.addVariables.leaves host := by
  unfold loadWith
  rw [Sys.leaves_bind]
  unfold Sys.leaves
  cases services.addVariables.run host with
  | error fault after => rfl
  | ok _ after => exact Sys.leaves_ofExcept _ after

theorem loadWith_unloaded {fault : Fault}
    (failed : services.addVariables.run host = .error fault after) :
    (loadWith services path).run host = .error fault after := by
  unfold loadWith
  rw [EStateM.run_bind, failed]

theorem loadWith_run (loaded : services.addVariables.run host = .ok () after)
    (only : OnlyEnvironment services.addVariables host) :
    (loadWith services path).run host = (Sys.ofExcept (do
      let file ← fileValue host path
      ofSources services.validate after.environ file)).run after := by
  unfold OnlyEnvironment at only
  rw [Sys.leaves_of_ok loaded] at only
  unfold loadWith
  rw [EStateM.run_bind, loaded]
  simp only [EStateM.run_bind, EStateM.run_get]
  rw [fileValue_same only]

end Loading

end Config

end PtyShell
