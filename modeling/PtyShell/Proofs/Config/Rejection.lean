import PtyShell.Proofs.Config.Precedence

/-! # What becomes of a malformed configuration file

The environment's settings are put into the file's before either is checked. So a file that has no
place for them is not reported by the check: it fails the merge, with a fault of its own. Every
other file is either accepted or has all of its problems reported, and no malformed one is accepted.
-/

namespace PtyShell

namespace Config

def termSources : List String := "SHELLEXEC_TERM" :: dimensionSources

def SuppliesTerm (environ : Env) : Prop :=
  ∃ source ∈ termSources, environ.getD source ≠ ""

instance (environ : Env) : Decidable (SuppliesTerm environ) :=
  inferInstanceAs (Decidable (∃ source ∈ termSources, environ.getD source ≠ ""))

/-- An environment in which no dimension is refused: each is unset, empty or an integer. -/
def Dimensioned (environ : Env) : Prop :=
  ∀ source ∈ dimensionSources, environ.getD source = "" ∨
    ∃ dimension, integer (environ.getD source) = .ok dimension

/-- The values of a file that have no place for the settings of an environment, and the fault of the
attempt to put them there. -/
inductive Unmergeable (environ : Env) : Json → Fault → Prop
  | file {value : Json} (noObject : ¬IsObject value) :
      Unmergeable environ value (.noMembers value.typeName)
  | term {file : Members} {value : Json} (held : Json.member? file "term" = some value)
      (noObject : ¬IsObject value) (supplied : SuppliesTerm environ) :
      Unmergeable environ (.obj file) (.noAssignment value.typeName)

section Merging

variable {environ : Env} {file : Members} {value : Json}

theorem members_noObject (noObject : ¬IsObject value) :
    members value = .error (.noMembers value.typeName) := by
  cases value with
  | obj members => exact absurd ⟨members, rfl⟩ noObject
  | _ => rfl

theorem assign_noObject (noObject : ¬IsObject value) (name : String) (member : Json) :
    assign name member value = .error (.noAssignment value.typeName) := by
  cases value with
  | obj members => exact absurd ⟨members, rfl⟩ noObject
  | _ => rfl

theorem overrideTerm_noObject (noObject : ¬IsObject value) (source name : String)
    {read : String → Except Fault Json}
    (reads : environ.getD source = "" ∨ ∃ member, read (environ.getD source) = .ok member) :
    overrideTerm environ source name read value =
      if environ.getD source = "" then .ok value else .error (.noAssignment value.typeName) := by
  unfold overrideTerm
  by_cases empty : environ.getD source = ""
  · rw [if_pos empty, if_pos empty]
  · obtain ⟨member, found⟩ := reads.resolve_left empty
    rw [if_neg empty, if_neg empty, found]
    exact assign_noObject noObject name member

theorem Dimensioned.unset (none : ∀ source ∈ dimensionSources, environ.getD source = "") :
    Dimensioned environ :=
  fun source member => Or.inl (none source member)

theorem Dimensioned.reads (dimensioned : Dimensioned environ) {source : String}
    (member : source ∈ dimensionSources) :
    environ.getD source = "" ∨ ∃ value, readInteger (environ.getD source) = .ok value := by
  apply (dimensioned source member).imp_right
  intro ⟨dimension, read⟩
  have given : readInteger (environ.getD source) = .ok (.int dimension) := by
    unfold readInteger
    rw [read]
    rfl
  exact ⟨.int dimension, given⟩

theorem Dimensioned.supplied (dimensioned : Dimensioned environ) {source : String}
    (member : source ∈ dimensionSources) :
    ∃ dimension, suppliedInteger environ source = .ok dimension := by
  cases found : suppliedInteger environ source with
  | ok dimension => exact ⟨dimension, rfl⟩
  | error fault =>
      obtain ⟨some, refused⟩ := suppliedInteger_error.mp found
      obtain ⟨dimension, read⟩ := (dimensioned source member).resolve_left some
      rw [read] at refused
      cases refused

theorem suppliesTerm_iff :
    SuppliesTerm environ ↔ environ.getD "SHELLEXEC_TERM" ≠ "" ∨
      environ.getD "SHELLEXEC_ROWS" ≠ "" ∨ environ.getD "SHELLEXEC_COLS" ≠ "" := by
  simp [SuppliesTerm, termSources, dimensionSources]

/-- Terminal settings that are no object stand as they are, or the first variable that is not empty
ends the merge. -/
theorem mergedTerm_noObject (held : Json.member? file "term" = some value)
    (noObject : ¬IsObject value) (dimensioned : Dimensioned environ) :
    mergedTerm environ file =
      if SuppliesTerm environ then .error (.noAssignment value.typeName) else .ok value := by
  have text : overrideTerm environ "SHELLEXEC_TERM" "term_type" readText value = _ :=
    overrideTerm_noObject noObject _ _ (Or.inr ⟨_, rfl⟩)
  have rows := overrideTerm_noObject noObject "SHELLEXEC_ROWS" "rows"
    (dimensioned.reads (by decide))
  have cols := overrideTerm_noObject noObject "SHELLEXEC_COLS" "cols"
    (dimensioned.reads (by decide))
  unfold mergedTerm
  simp only [held, Option.getD_some, text]
  by_cases noText : environ.getD "SHELLEXEC_TERM" = ""
  · rw [if_pos noText]
    show overrideTerm _ _ _ _ _ >>= _ = _
    rw [rows]
    by_cases noRows : environ.getD "SHELLEXEC_ROWS" = ""
    · rw [if_pos noRows]
      show overrideTerm _ _ _ _ _ = _
      rw [cols]
      by_cases noCols : environ.getD "SHELLEXEC_COLS" = "" <;>
        simp [suppliesTerm_iff, noText, noRows, noCols]
    · rw [if_neg noRows, if_pos (suppliesTerm_iff.mpr (Or.inr (Or.inl noRows)))]
      rfl
  · rw [if_neg noText, if_pos (suppliesTerm_iff.mpr (Or.inl noText))]
    rfl

def standing (environ : Env) (value : Json) (file : Members) : Members :=
  overrideMember environ "SHELLEXEC_LANG" "lang"
    (overrideMember environ "SHELLEXEC_SHELL" "shell"
      (if value.isSet then Json.setMember "term" value file else file))

theorem merged_noObject (held : Json.member? file "term" = some value)
    (noObject : ¬IsObject value) (dimensioned : Dimensioned environ) :
    merged environ file =
      if SuppliesTerm environ then .error (.noAssignment value.typeName)
      else .ok (standing environ value file) := by
  unfold merged
  rw [mergedTerm_noObject held noObject dimensioned]
  by_cases supplied : SuppliesTerm environ
  · rw [if_pos supplied, if_pos supplied]
    rfl
  · rw [if_neg supplied, if_neg supplied]
    rfl

theorem member?_standing (environ : Env) (held : Json.member? file "term" = some value) :
    Json.member? (standing environ value file) "term" = some value ∧
      Json.member? (standing environ value file) "shell" =
        ((suppliedText environ "SHELLEXEC_SHELL").map .str).or (Json.member? file "shell") ∧
      Json.member? (standing environ value file) "lang" =
        ((suppliedText environ "SHELLEXEC_LANG").map .str).or (Json.member? file "lang") := by
  unfold standing
  simp only [overrideMember_eq, member?_put]
  cases value.isSet <;> simp [Json.member?_setMember, held]

end Merging

section Checking

variable {environ : Env} {file : Members} {value : Json}

theorem verdicts_standing (types : LaxTypes) (held : Json.member? file "term" = some value)
    (noObject : ¬IsObject value) (unsupplied : ¬SuppliesTerm environ) :
    types.verdicts (standing environ value file) = decisions types environ file none none := by
  obtain ⟨term, shell, lang⟩ := member?_standing environ held
  have text : suppliedText environ "SHELLEXEC_TERM" = none := by
    apply if_pos
    apply Decidable.byContradiction
    intro some
    exact unsupplied (suppliesTerm_iff.mpr (Or.inl some))
  have shellGiven : Json.member? (standing environ value file) "shell" =
      (((suppliedText environ "SHELLEXEC_SHELL").map some).map textJson).or
        (Json.member? file "shell") := by
    rw [shell, Option.map_map]
    rfl
  have shellFound := field_decided textJson types.optionalText_textJson shellGiven none
  have langFound := field_decided .str types.text_str lang "en_US.UTF-8"
  unfold LaxTypes.verdicts decisions
  rw [termMembers_noObject term noObject, termMembers_noObject held noObject, text, shellFound,
    langFound]
  rfl

variable {types : LaxTypes} {validate : Json → Except Fault Config}

theorem ofSources_unplaced (held : Json.member? file "term" = some value)
    (noObject : ¬IsObject value) (dimensioned : Dimensioned environ)
    (supplied : SuppliesTerm environ) :
    ofSources validate environ (.obj file) = .error (.noAssignment value.typeName) := by
  show merged environ file >>= _ = _
  rw [merged_noObject held noObject dimensioned, if_pos supplied]
  rfl

theorem ofSources_standing (lax : IsLax types validate)
    (held : Json.member? file "term" = some value) (noObject : ¬IsObject value)
    (dimensioned : Dimensioned environ) (unsupplied : ¬SuppliesTerm environ) :
    ofSources validate environ (.obj file) = .error (.badModel .config
      (⟨.modelType, [.key "term"]⟩ :: (decisions types environ file none none).problems)) := by
  show merged environ file >>= _ = _
  rw [merged_noObject held noObject dimensioned, if_neg unsupplied]
  show validate _ = _
  rw [lax.noObject (member?_standing environ held).1 noObject,
    verdicts_standing types held noObject unsupplied]

theorem Unmergeable.ofSources {fault : Fault} (unmergeable : Unmergeable environ value fault)
    (dimensioned : Dimensioned environ) (validate : Json → Except Fault Config) :
    ofSources validate environ value = .error fault := by
  cases unmergeable with
  | file noObject =>
      unfold Config.ofSources
      rw [members_noObject noObject]
      rfl
  | term held noObject supplied => exact ofSources_unplaced held noObject dimensioned supplied

theorem mergeable_cases (mergeable : ∀ fault, ¬Unmergeable environ value fault) :
    ∃ file, value = .obj file ∧ (HasTerm file ∨ ∃ term, Json.member? file "term" = some term ∧
      ¬IsObject term ∧ ¬SuppliesTerm environ) := by
  by_cases object : IsObject value
  · obtain ⟨file, rfl⟩ := object
    refine ⟨file, rfl, ?_⟩
    cases held : Json.member? file "term" with
    | none =>
        left
        intro term other
        rw [held] at other
        cases other
    | some term =>
        by_cases termObject : IsObject term
        · left
          intro other same
          rw [held] at same
          exact Option.some.inj same ▸ termObject
        · right
          refine ⟨term, rfl, termObject, ?_⟩
          intro supplied
          exact mergeable _ (.term held termObject supplied)
  · exact absurd (.file object) (mergeable _)

end Checking

section Loading

variable {services : Services} {types : LaxTypes} {path : Option String} {value : Json}
  {host after : Host}

/-- Loading ends with a configuration, or with the problems of one. -/
def Validated (services : Services) (path : Option String) (host after : Host) : Prop :=
  (∃ config, (loadWith services path).run host = .ok config after) ∨
    ∃ problems, problems ≠ [] ∧
      (loadWith services path).run host = .error (.badModel .config problems) after

/-- What loading makes of the value of a file that was read, once the variables of the environment
file were added. -/
structure Answers (services : Services) (types : LaxTypes) (path : Option String) (value : Json)
    (host after : Host) : Prop where
  /-- Only a file without a place for the environment's settings is not judged by its check. -/
  validates : Validated services path host after ↔ ∀ fault, ¬Unmergeable after.environ value fault
  raises : ∀ fault, Unmergeable after.environ value fault →
    (loadWith services path).run host = .error fault after
  /-- Terminal settings that are no object are reported when nothing is to be put into them,
  together with all else that is wrong with the file. -/
  reports : ∀ file term, value = .obj file → Json.member? file "term" = some term →
    ¬IsObject term → ¬SuppliesTerm after.environ →
      (loadWith services path).run host = .error (.badModel .config
        (⟨.modelType, [.key "term"]⟩ ::
          (decisions types after.environ file none none).problems)) after
  /-- No malformed file is accepted. -/
  accepts : ∀ config, (loadWith services path).run host = .ok config after →
    ∃ file, value = .obj file ∧ HasTerm file

theorem Loads.validated {file : Members} (loads : Loads services types path file host after)
    (dimensioned : Dimensioned after.environ) : Validated services path host after := by
  obtain ⟨rows, suppliedRows⟩ := dimensioned.supplied
    (by decide : "SHELLEXEC_ROWS" ∈ dimensionSources)
  obtain ⟨cols, suppliedCols⟩ := dimensioned.supplied
    (by decide : "SHELLEXEC_COLS" ∈ dimensionSources)
  obtain ⟨accepted, rejected, complete⟩ := loads.decides rows cols suppliedRows suppliedCols
  by_cases clean : (decisions types after.environ file rows cols).problems = []
  · obtain ⟨config, gives⟩ := complete clean
    exact Or.inl ⟨config, (accepted config).mpr gives⟩
  · exact Or.inr ⟨_, clean, (rejected _).mpr ⟨rfl, clean⟩⟩

theorem load_answered (lax : IsLax types services.validate)
    (only : OnlyEnvironment services.addVariables host) (given : fileValue host path = .ok value)
    (loaded : services.addVariables.run host = .ok () after)
    (dimensioned : Dimensioned after.environ) :
    Answers services types path value host after := by
  have raises (fault : Fault) (unmergeable : Unmergeable after.environ value fault) :
      (loadWith services path).run host = .error fault after := by
    rw [loadWith_value given only loaded, unmergeable.ofSources dimensioned]
    rfl
  have reports (file : Members) (term : Json) (object : value = .obj file)
      (held : Json.member? file "term" = some term) (noObject : ¬IsObject term)
      (unsupplied : ¬SuppliesTerm after.environ) :
      (loadWith services path).run host = .error (.badModel .config
        (⟨.modelType, [.key "term"]⟩ ::
          (decisions types after.environ file none none).problems)) after := by
    rw [loadWith_value given only loaded, object,
      ofSources_standing lax held noObject dimensioned unsupplied]
    rfl
  refine ⟨⟨?_, ?_⟩, raises, reports, ?_⟩
  · intro validated fault unmergeable
    have raised := raises fault unmergeable
    rcases validated with ⟨config, accepted⟩ | ⟨problems, _, rejected⟩
    · rw [raised] at accepted
      cases accepted
    · rw [raised] at rejected
      cases unmergeable <;> cases rejected
  · intro mergeable
    obtain ⟨file, rfl, hasTerm | ⟨term, held, noObject, unsupplied⟩⟩ := mergeable_cases mergeable
    · exact (loadWith_loads lax only hasTerm given loaded).validated dimensioned
    · exact Or.inr ⟨_, List.cons_ne_nil _ _, reports file term rfl held noObject unsupplied⟩
  · intro config accepted
    have mergeable (fault : Fault) : ¬Unmergeable after.environ value fault := by
      intro unmergeable
      rw [raises fault unmergeable] at accepted
      cases accepted
    obtain ⟨file, rfl, hasTerm | ⟨term, held, noObject, unsupplied⟩⟩ := mergeable_cases mergeable
    · exact ⟨file, rfl, hasTerm⟩
    · rw [reports file term rfl held noObject unsupplied] at accepted
      cases accepted

/-- Loading a file accepts it or reports its problems, unless the environment has a setting that the
file has no place for or the file exceeds the limits of its reader, which are faults of other
kinds. -/
theorem load_answers (lax : IsLax types services.validate)
    (only : OnlyEnvironment services.addVariables host) (holds : Holds host path value) :
    (∀ fault after, services.addVariables.run host = .error fault after →
      (loadWith services path).run host = .error fault after) ∧
    ∀ after, services.addVariables.run host = .ok () after → Dimensioned after.environ →
      ((fileValue host path = .ok value ∧ Answers services types path value host after) ∨
        ∃ fault, fileValue host path = .error fault ∧ ExceedsLimits fault ∧
          (loadWith services path).run host = .error fault after) := by
  constructor
  · intro fault after failed
    exact loadWith_unloaded failed
  · intro after loaded dimensioned
    rcases holds.fileValue with given | ⟨fault, unread, exceeds⟩
    · exact .inl ⟨given, load_answered lax only given loaded dimensioned⟩
    · exact .inr ⟨fault, unread, exceeds, loadWith_unread unread only loaded⟩

def numbering : Host :=
  holding "\x7b\"term\": 5, \"shell\": 7\x7d".toList []

theorem load_answers_numbering :
    IsLax standardTypes Services.standard.validate ∧
      OnlyEnvironment Services.standard.addVariables numbering ∧
      Holds numbering (some "/c") (.obj [("term", .int 5), ("shell", .int 7)]) ∧
      ∃ after, Services.standard.addVariables.run numbering = .ok () after ∧
        Dimensioned after.environ ∧
        (load (some "/c")).run numbering = .error (.badModel .config
          [⟨.modelType, [.key "term"]⟩, ⟨.stringType, [.key "shell"]⟩]) after := by
  have holds : Holds numbering (some "/c") (.obj [("term", .int 5), ("shell", .int 7)]) :=
    holding_holds (by decide) (by decide +kernel)
  have given : fileValue numbering (some "/c") =
      .ok (.obj [("term", .int 5), ("shell", .int 7)]) := ok_of_toOption (by decide +kernel)
  have loaded : Services.standard.addVariables.run numbering =
      .ok () (EnvFile.extended numbering Env.empty) := holding_loaded _ rfl
  have dimensioned : Dimensioned Env.empty := .unset (by decide)
  have only := standard_only numbering
  refine ⟨standard_isLax, only, holds, _, loaded, dimensioned, ?_⟩
  rcases (load_answers standard_isLax only holds).2 _ loaded dimensioned with
    ⟨_, answers⟩ | ⟨fault, unread, _⟩
  · refine answers.reports _ (.int 5) rfl rfl ?_ (by decide)
    rintro ⟨members, same⟩
    cases same
  · rw [given] at unread
    cases unread

def listing : Host :=
  holding "[]".toList []

def supplying : Host :=
  holding "\x7b\"term\": 5\x7d".toList [("SHELLEXEC_TERM", "tt")]

/-- These files are neither accepted nor reported. -/
theorem malformed_not_validated :
    (∃ after, Holds listing (some "/c") (.arr []) ∧
      Services.standard.addVariables.run listing = .ok () after ∧ Dimensioned after.environ ∧
      ¬Validated .standard (some "/c") listing after) ∧
    ∃ after, Holds supplying (some "/c") (.obj [("term", .int 5)]) ∧
      Services.standard.addVariables.run supplying = .ok () after ∧ Dimensioned after.environ ∧
      ¬Validated .standard (some "/c") supplying after := by
  constructor
  · have holds : Holds listing (some "/c") (.arr []) :=
      holding_holds (by decide) (by decide +kernel)
    have given : fileValue listing (some "/c") = .ok (.arr []) := ok_of_toOption (by decide +kernel)
    have loaded : Services.standard.addVariables.run listing =
        .ok () (EnvFile.extended listing Env.empty) := holding_loaded _ rfl
    have dimensioned : Dimensioned Env.empty := .unset (by decide)
    refine ⟨_, holds, loaded, dimensioned, ?_⟩
    intro validated
    have answers := load_answered standard_isLax (standard_only _) given loaded dimensioned
    apply answers.validates.mp validated
    exact .file (by rintro ⟨members, same⟩; cases same)
  · have holds : Holds supplying (some "/c") (.obj [("term", .int 5)]) :=
      holding_holds (by decide) (by decide +kernel)
    have given : fileValue supplying (some "/c") = .ok (.obj [("term", .int 5)]) :=
      ok_of_toOption (by decide +kernel)
    have loaded : Services.standard.addVariables.run supplying =
        .ok () (EnvFile.extended supplying (Env.ofList [("SHELLEXEC_TERM", "tt")])) :=
      holding_loaded _ rfl
    have dimensioned : Dimensioned (Env.ofList [("SHELLEXEC_TERM", "tt")]) := .unset (by decide)
    refine ⟨_, holds, loaded, dimensioned, ?_⟩
    intro validated
    have answers := load_answered standard_isLax (standard_only _) given loaded dimensioned
    apply answers.validates.mp validated
    exact .term rfl (by rintro ⟨members, same⟩; cases same) (by decide)

end Loading

end Config

end PtyShell
